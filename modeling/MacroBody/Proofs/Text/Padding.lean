import MacroBody.Proofs.Text.Basic

/-!
# Blanks around a text

Blanks before a text are gone once its leading blanks are removed.  Blanks after a text stay longer:
a reader that takes a text apart from the left hands them on to what is left over, and sometimes
they make an empty rest out of nothing at all.

`Padded t t'` says that `t'` is `t` with blanks after it that stay on the line.  The key local fact
is that every operation on texts takes padded texts to padded ones, or to equal ones where no rest
is kept: removing leading characters (`Padded.dropWhile`), spanning a word (`Padded.spanWord`),
reading past a word (`Padded.after?`, `Padded.afterWord?`), cutting (`Padded.cut?`) and splitting at
commas (`Padded.exists_splitOn`).  The one exception is a word that must be followed by a blank: at
the end of the text it is found only with the blanks after it, and then nothing is left.
-/

namespace MacroBody.Text

/-- `t'` is `t` with blanks after it that stay on the line. -/
def Padded (t t' : Text) : Prop :=
  ∃ pad, AllBlank pad ∧ '\n' ∉ pad ∧ t' = t ++ pad

/-- The same was taken off on both sides, and padded texts are left over. -/
def PaddedRest {α : Type} (a b : α × Text) : Prop :=
  b.1 = a.1 ∧ Padded a.2 b.2

/-- Two related options are both empty, or both hold a value and the values are related. -/
theorem eq_none_or_exists_of_rel {α β : Type} {R : α → β → Prop} {a : Option α} {b : Option β}
    (h : Option.Rel R a b) :
    (a = none ∧ b = none) ∨ ∃ x y, a = some x ∧ b = some y ∧ R x y := by
  cases h with
  | none => exact Or.inl ⟨rfl, rfl⟩
  | some h => exact Or.inr ⟨_, _, rfl, rfl, h⟩

/-- Two optional values are related if each value of the first has a related one in the second, and
the second has no more. -/
theorem rel_of_forall {α β : Type} {R : α → β → Prop} {a : Option α} {b : Option β}
    (hforth : ∀ x, a = some x → ∃ y, b = some y ∧ R x y)
    (hback : ∀ y, b = some y → ∃ x, a = some x) : Option.Rel R a b := by
  cases ha : a with
  | some x =>
      obtain ⟨y, rfl, hxy⟩ := hforth x ha
      exact .some hxy
  | none =>
      cases hb : b with
      | none => exact .none
      | some y =>
          obtain ⟨x, hx⟩ := hback y hb
          rw [ha] at hx
          cases hx

variable {p : Char → Bool} {t t' u w pad : Text} {c : Char}

/-! ## Blanks before a text -/

/-- Blanks in front change nothing once the start is trimmed. -/
theorem trimStart_blank_append (hu : AllBlank u) (t : Text) : trimStart (u ++ t) = t.trimStart :=
  List.dropWhile_append_of_pos hu

/-- Blanks in front change nothing once the text is trimmed. -/
theorem trim_blank_append (hu : AllBlank u) (t : Text) : trim (u ++ t) = t.trim := by
  rw [trim, trimStart_blank_append hu, trim]

/-- Blanks before a text stand before the first cut. -/
theorem cut?_blank_append (hp : ∀ c, isBlank c = true → p c = false) (hu : AllBlank u) (t : Text) :
    cut? p (u ++ t) = (t.cut? p).map fun parts => (u ++ parts.1, parts.2) := by
  have hrun : ∀ c ∈ u, (!p c) = true := by
    intro c hc
    simp [hp c (hu c hc)]
  simp only [cut?, List.dropWhile_append_of_pos hrun, List.takeWhile_append_of_pos hrun]
  cases t.dropWhile (!p ·) <;> rfl

/-! ## Blanks after a text -/

/-- Blanks at the end of a line pad it. -/
theorem padded_append (t : Text) (hpad : AllBlank pad) (hline : '\n' ∉ pad) : Padded t (t ++ pad) :=
  ⟨pad, hpad, hline, rfl⟩

/-- What pads nothing is blank. -/
theorem Padded.allBlank (h : Padded [] t') : AllBlank t' := by
  obtain ⟨pad, hpad, -, rfl⟩ := h
  exact hpad

/-- A text pads with what stands before it. -/
theorem Padded.append_left (h : Padded t t') (front : Text) :
    Padded (front ++ t) (front ++ t') := by
  obtain ⟨pad, hpad, hline, rfl⟩ := h
  exact ⟨pad, hpad, hline, by simp⟩

/-- Padding keeps the first character. -/
theorem Padded.exists_cons (h : Padded (c :: t) t') : ∃ rest, t' = c :: rest ∧ Padded t rest := by
  obtain ⟨pad, hpad, hline, rfl⟩ := h
  exact ⟨t ++ pad, rfl, padded_append t hpad hline⟩

/-- **What does not end with a blank is no padding.**  If it starts the padded text, it starts the
text itself. -/
theorem Padded.of_append {front rest' : Text} (h : Padded t (front ++ rest'))
    (hfront : Stops isBlank front.reverse) : ∃ rest, t = front ++ rest ∧ Padded rest rest' := by
  obtain ⟨pad, hpad, hline, heq⟩ := h
  rcases List.append_eq_append_iff.1 heq with ⟨x, ht, hrest⟩ | ⟨x, hx, hrest⟩
  · exact ⟨x, ht, hrest ▸ padded_append x hpad hline⟩
  · rcases List.eq_nil_or_concat x with rfl | ⟨y, c, rfl⟩
    · rw [List.append_nil] at hx
      rw [List.nil_append] at hrest
      exact ⟨[], by simp [hx], hrest ▸ padded_append [] hpad hline⟩
    · have hblank : isBlank c = true := hpad c (by rw [hrest]; simp)
      have hstop : isBlank c = false := hfront c (by rw [hx]; simp)
      rw [hblank] at hstop
      cases hstop

/-- Padding breaks no line. -/
theorem Padded.isOneLine_eq (h : Padded t t') : t'.isOneLine = t.isOneLine := by
  obtain ⟨pad, -, hline, rfl⟩ := h
  rw [Bool.eq_iff_iff, isOneLine_iff, isOneLine_iff]
  simp [hline]

/-- Whether a text is at a blank, or at its end, is not changed by padding. -/
theorem Padded.atBlank_eq (h : Padded t t') : t'.atBlank = t.atBlank := by
  cases t with
  | cons c t =>
      obtain ⟨rest, rfl, -⟩ := h.exists_cons
      rfl
  | nil =>
      cases t' with
      | nil => rfl
      | cons c t' => exact h.allBlank c List.mem_cons_self

/-- **Trimming undoes padding.** -/
theorem Padded.trim_eq (h : Padded t t') : t'.trim = t.trim := by
  obtain ⟨pad, hpad, -, rfl⟩ := h
  obtain ⟨u, v, hu, hv, ht⟩ := exists_trim t
  refine trim_eq_iff.2 ⟨tight_trim t, u, v ++ pad, hu, allBlank_append.2 ⟨hv, hpad⟩, ?_⟩
  rw [← List.append_assoc, ← ht]

/-- Removing leading characters of any class leaves padded texts. -/
theorem Padded.dropWhile (h : Padded t t') (p : Char → Bool) :
    Padded (t.dropWhile p) (t'.dropWhile p) := by
  obtain ⟨pad, hpad, hline, rfl⟩ := h
  rw [List.dropWhile_append]
  split
  · rename_i hempty
    have hsuffix : pad.dropWhile p <:+ pad := List.dropWhile_suffix p
    rw [List.isEmpty_iff.1 hempty]
    exact ⟨pad.dropWhile p, fun c hc => hpad c (hsuffix.mem hc),
      fun hmem => hline (hsuffix.mem hmem), rfl⟩
  · exact padded_append _ hpad hline

/-- Padding goes along when the start is trimmed. -/
theorem Padded.trimStart (h : Padded t t') : Padded t.trimStart t'.trimStart :=
  h.dropWhile isBlank

/-- Blanks after a text do not belong to its leading word. -/
theorem Padded.spanWord (h : Padded t t') :
    t'.spanWord.1 = t.spanWord.1 ∧ Padded t.spanWord.2 t'.spanWord.2 := by
  refine ⟨?_, h.dropWhile isWord⟩
  obtain ⟨pad, hpad, -, rfl⟩ := h
  have hnone : pad.takeWhile isWord = [] := by
    cases pad with
    | nil => rfl
    | cons c pad =>
        exact List.takeWhile_cons_of_neg (by simp [isWord_of_isBlank (hpad c (by simp))])
  simp only [Text.spanWord, List.takeWhile_append, hnone, List.append_nil]
  split
  · rename_i hlength
    exact ((List.takeWhile_prefix isWord).eq_of_length hlength).symm
  · rfl

/-- A word without blanks is found in the text or not at all. -/
theorem Padded.after? (h : Padded t t') (hw : ∀ c ∈ w, isBlank c = false) :
    Option.Rel Padded (t.after? w) (t'.after? w) := by
  refine rel_of_forall ?_ ?_
  · intro rest hrest
    obtain rfl := after?_eq_some.1 hrest
    obtain ⟨pad, hpad, hline, rfl⟩ := h
    exact ⟨rest ++ pad, after?_eq_some.2 (by simp), padded_append rest hpad hline⟩
  · intro rest' hrest'
    obtain rfl := after?_eq_some.1 hrest'
    obtain ⟨rest, rfl, -⟩ := h.of_append (tight_of_forall hw).2
    exact ⟨rest, after?_eq_some.2 rfl⟩

/-- Nothing is left of blanks. -/
theorem trimStart_of_allBlank (h : AllBlank t) : t.trimStart = [] :=
  trimStart_eq_iff.2 ⟨stops_nil, t, h, by simp⟩

/-- A word that must be followed by a blank can end the text.  It is then found only with blanks
after it, and nothing is left. -/
theorem Padded.afterWord? (h : Padded t t') (hw : ∀ c ∈ w, isBlank c = false) :
    Option.Rel Padded (t.afterWord? w) (t'.afterWord? w) ∨
      t.afterWord? w = none ∧ t'.afterWord? w = some [] := by
  unfold Text.afterWord?
  rcases eq_none_or_exists_of_rel (h.after? hw) with
    ⟨hnone, hnone'⟩ | ⟨rest, rest', hsome, hsome', hrest⟩
  · rw [hnone, hnone']
    exact Or.inl .none
  · rw [hsome, hsome']
    cases rest with
    | nil =>
        cases rest' with
        | nil => exact Or.inl .none
        | cons c rest' =>
            have hblank : isBlank c = true := hrest.allBlank c List.mem_cons_self
            have hempty : Text.trimStart rest' = [] :=
              trimStart_of_allBlank fun x hx => hrest.allBlank x (List.mem_cons_of_mem _ hx)
            exact Or.inr ⟨rfl, by simp [hblank, hempty]⟩
    | cons c rest =>
        obtain ⟨more, rfl, hmore⟩ := hrest.exists_cons
        left
        cases hblank : isBlank c with
        | true => simpa [hblank] using Option.Rel.some hmore.trimStart
        | false => simp [hblank]

/-- A cut is made if there is a character to cut at. -/
theorem exists_cut? (hmem : c ∈ t) (hc : p c = true) : ∃ parts, t.cut? p = some parts := by
  unfold Text.cut?
  split
  · rename_i hempty
    rw [List.dropWhile_eq_nil_iff] at hempty
    have hnot := hempty c hmem
    simp [hc] at hnot
  · exact ⟨_, rfl⟩

/-- Blanks after a text stand behind the cut. -/
theorem Padded.cut? (h : Padded t t') (hp : ∀ c, isBlank c = true → p c = false) :
    Option.Rel PaddedRest (t.cut? p) (t'.cut? p) := by
  obtain ⟨pad, hpad, hline, rfl⟩ := h
  refine rel_of_forall ?_ ?_
  · intro ⟨before, after⟩ hcut
    obtain ⟨c, hc, rfl, hbefore⟩ := cut?_eq_some_iff.1 hcut
    exact ⟨(before, after ++ pad), cut?_eq_some_iff.2 ⟨c, hc, by simp, hbefore⟩, rfl,
      padded_append after hpad hline⟩
  · intro ⟨before, after⟩ hcut
    obtain ⟨c, hc, heq, -⟩ := cut?_eq_some_iff.1 hcut
    have hmem : c ∈ t ++ pad := by
      rw [heq]
      simp
    rcases List.mem_append.1 hmem with hmem | hmem
    · exact exists_cut? hmem hc
    · rw [hp c (hpad c hmem)] at hc
      cases hc

/-- Blanks after a text bring no character of another class. -/
theorem Padded.any_takeWhile_eq (h : Padded t t') (hp : ∀ c, isBlank c = true → p c = false)
    (q : Char → Bool) : (t'.takeWhile q).any p = (t.takeWhile q).any p := by
  obtain ⟨pad, hpad, -, rfl⟩ := h
  rw [List.takeWhile_append]
  split
  · rename_i hlength
    have hwhole : t.takeWhile q = t := (List.takeWhile_prefix q).eq_of_length hlength
    have hnone : (pad.takeWhile q).any p = false := by
      rw [List.any_eq_false]
      intro c hc
      simp [hp c (hpad c ((List.takeWhile_prefix q).mem hc))]
    rw [hwhole, List.any_append, hnone, Bool.or_false]
  · rfl

/-- Blanks after a text belong to its last piece. -/
theorem Padded.exists_splitOn (h : Padded t t') :
    ∃ init last last', t.splitOn ',' = init ++ [last] ∧ t'.splitOn ',' = init ++ [last'] ∧
      Padded last last' := by
  obtain ⟨pad, hpad, hline, rfl⟩ := h
  have hcomma : ',' ∉ pad := by
    intro hmem
    cases hpad ',' hmem
  suffices hsplit : ∃ init last, t.splitOn ',' = init ++ [last] ∧
      (t ++ pad).splitOn ',' = init ++ [last ++ pad] by
    obtain ⟨init, last, hinit, hinit'⟩ := hsplit
    exact ⟨init, last, last ++ pad, hinit, hinit', padded_append last hpad hline⟩
  induction t with
  | nil => exact ⟨[], [], rfl, List.splitOn_eq_singleton hcomma⟩
  | cons c t ih =>
      obtain ⟨init, last, hinit, hinit'⟩ := ih
      rw [List.cons_append, List.splitOn_cons_eq_if_modifyHead, List.splitOn_cons_eq_if_modifyHead,
        hinit, hinit']
      split
      · exact ⟨[] :: init, last, rfl, rfl⟩
      · cases init with
        | nil => exact ⟨[], c :: last, rfl, rfl⟩
        | cons first init => exact ⟨(c :: first) :: init, last, rfl, rfl⟩

/-- The items of a list are trimmed, so padding does not show in them. -/
theorem Padded.items_eq (h : Padded t t') : t'.items = t.items := by
  obtain ⟨init, last, last', hinit, hinit', hlast⟩ := h.exists_splitOn
  simp [items, hinit, hinit', hlast.trim_eq]

/-- A list of tokens is read alike once it is padded. -/
theorem Padded.tokens?_eq (h : Padded t t') : t'.tokens? = t.tokens? := by
  rw [tokens?, tokens?, h.items_eq]

/-- Blanks after the last part are blanks after the whole. -/
theorem Padded.join (h : Padded t t') (separator : Text) (parts : List Text) :
    Padded (join separator (parts ++ [t])) (join separator (parts ++ [t'])) := by
  induction parts with
  | nil => simpa [Text.join] using h
  | cons first parts ih =>
      cases parts with
      | nil =>
          simp only [List.cons_append, List.nil_append, join_cons_cons] at ih ⊢
          exact (ih.append_left separator).append_left first
      | cons second parts =>
          simp only [List.cons_append, join_cons_cons] at ih ⊢
          exact (ih.append_left separator).append_left first

end MacroBody.Text
