import Mathlib.Data.List.Basic
import Mathlib.Data.List.TakeWhile
import MacroBody.Text.Basic

/-!
# Shapes of texts

Every grammar takes a line apart by removing blanks, spanning word characters and cutting at a
mark.  This file says of each of these operations which equation `t = u ++ m ++ v` it solves, so
that a grammar can be compared with a written shape without looking into list functions.

The key local fact is `span_unique`: a text can be divided in one way only into a run of
characters of a class and a rest that does not start with one.  It applies because the classes do
not meet: no word character is blank (`isWord_of_isBlank`), and the marks of the grammars are
neither.
-/

namespace MacroBody

/-! ## The two classes of characters -/

/-- No blank is a word character. -/
theorem isWord_of_isBlank {c : Char} (h : isBlank c = true) : isWord c = false := by
  have hcodes : ∀ n ∈ List.range' 9 5 ++ [0x20, 0x85, 0xa0, 0x1680] ++ List.range' 0x2000 11 ++
      [0x2028, 0x2029, 0x202f, 0x205f, 0x3000], isWord (Char.ofNat n) = false := by
    decide +kernel
  have hmem : c.toNat ∈ List.range' 9 5 ++ [0x20, 0x85, 0xa0, 0x1680] ++ List.range' 0x2000 11 ++
      [0x2028, 0x2029, 0x202f, 0x205f, 0x3000] := by
    simp only [isBlank, Bool.or_eq_true, Bool.and_eq_true, decide_eq_true_eq, beq_iff_eq] at h
    simp only [List.mem_append, List.mem_range'_1, List.mem_cons, List.not_mem_nil]
    omega
  simpa using hcodes c.toNat hmem

/-- No word character is blank. -/
theorem isBlank_of_isWord {c : Char} (h : isWord c = true) : isBlank c = false := by
  by_contra hblank
  rw [isWord_of_isBlank (by simpa using hblank)] at h
  cases h

/-- An ASCII letter is a word character. -/
theorem isWord_of_isAlpha {c : Char} (h : c.isAlpha = true) : isWord c = true := by
  have hlt : c.toNat < 0x80 := by
    rcases Bool.or_eq_true_iff.1 h with hupper | hlower
    · have hle := (of_decide_eq_true hupper).2
      exact Nat.lt_of_le_of_lt (UInt32.le_iff_toNat_le.1 hle) (by decide)
    · have hle := of_decide_eq_true (Bool.and_eq_true_iff.1 hlower).2
      exact Nat.lt_of_le_of_lt (UInt32.le_iff_toNat_le.1 hle) (by decide)
  rw [isWord_of_lt hlt, Char.isAlphanum, h]
  rfl

/-- The marks that the grammars look for, none of which is a word character or blank. -/
def marks : List Char :=
  [':', '=', '(', ')', '<', '>', '"', '.', ',', '/']

/-- Whether `c` is a mark. -/
def isMark (c : Char) : Bool :=
  marks.contains c

/-- A mark ends a word. -/
theorem isWord_of_isMark {c : Char} (h : isMark c = true) : isWord c = false := by
  have hall : marks.all (fun m => !isWord m) = true := by decide
  simpa using List.all_eq_true.1 hall c (List.contains_iff_mem.1 h)

/-- A mark ends a run of blanks. -/
theorem isBlank_of_isMark {c : Char} (h : isMark c = true) : isBlank c = false := by
  have hall : marks.all (fun m => !isBlank m) = true := by decide
  simpa using List.all_eq_true.1 hall c (List.contains_iff_mem.1 h)

/-- Neither word characters nor blanks are marks. -/
theorem isMark_eq_false {c : Char} (h : isWord c = true ∨ isBlank c = true) : isMark c = false := by
  by_contra hmark
  have hmark : isMark c = true := by simpa using hmark
  rw [isWord_of_isMark hmark, isBlank_of_isMark hmark] at h
  simp at h

namespace Text

/-- Every character of `t` is blank. -/
def AllBlank (t : Text) : Prop :=
  ∀ c ∈ t, isBlank c = true

instance (t : Text) : Decidable (AllBlank t) :=
  decidable_of_iff (t.all isBlank = true) List.all_eq_true

/-- `t` is empty or starts with a character outside the class. -/
def Stops (p : Char → Bool) (t : Text) : Prop :=
  ∀ c, t.head? = some c → p c = false

/-- `t` neither starts nor ends with a blank. -/
def Tight (t : Text) : Prop :=
  Stops isBlank t ∧ Stops isBlank t.reverse

/-! ## Runs of a class -/

section Runs

variable {p : Char → Bool} {a a' b b' t : Text}

@[simp]
theorem stops_nil : Stops p [] := by
  simp [Stops]

@[simp]
theorem stops_cons {c : Char} : Stops p (c :: t) ↔ p c = false := by
  simp [Stops]

/-- Spanning a class gives the run that the text is written with. -/
theorem takeWhile_run (ha : ∀ c ∈ a, p c = true) (hb : Stops p b) :
    (a ++ b).takeWhile p = a := by
  rw [List.takeWhile_append_of_pos ha]
  cases b with
  | nil => simp
  | cons c rest => simp [stops_cons.1 hb]

/-- Skipping a class leaves what is written behind the run. -/
theorem dropWhile_run (ha : ∀ c ∈ a, p c = true) (hb : Stops p b) :
    (a ++ b).dropWhile p = b := by
  rw [List.dropWhile_append_of_pos ha]
  cases b with
  | nil => simp
  | cons c rest => simp [stops_cons.1 hb]

/-- What is left once a class is skipped does not start with it. -/
theorem stops_dropWhile (p : Char → Bool) (t : Text) : Stops p (t.dropWhile p) := by
  intro c hc
  have h := List.head?_dropWhile_not p t
  rw [hc] at h
  simpa using h

/-- **A division into a run and a rest is unique.** -/
theorem span_unique (ha : ∀ c ∈ a, p c = true) (ha' : ∀ c ∈ a', p c = true) (hb : Stops p b)
    (hb' : Stops p b') (h : a ++ b = a' ++ b') : a = a' ∧ b = b' := by
  have hrun : a = a' := by
    rw [← takeWhile_run ha hb, h, takeWhile_run ha' hb']
  subst hrun
  exact ⟨rfl, List.append_cancel_left h⟩

end Runs

/-! ## Trimming -/

section Trimming

variable {m t u v : Text}

@[simp]
theorem allBlank_nil : AllBlank [] := by
  simp [AllBlank]

@[simp]
theorem allBlank_append : AllBlank (u ++ v) ↔ AllBlank u ∧ AllBlank v := by
  simp only [AllBlank, List.mem_append]
  constructor
  · intro h
    exact ⟨fun c hc => h c (Or.inl hc), fun c hc => h c (Or.inr hc)⟩
  · intro h c hc
    rcases hc with hc | hc
    · exact h.1 c hc
    · exact h.2 c hc

theorem AllBlank.reverse (h : AllBlank t) : AllBlank t.reverse := by
  intro c hc
  exact h c (List.mem_reverse.1 hc)

/-- Removing leading blanks divides the text into a run of blanks and a rest. -/
theorem trimStart_eq_iff :
    t.trimStart = m ↔ Stops isBlank m ∧ ∃ u, AllBlank u ∧ t = u ++ m := by
  constructor
  · intro heq
    subst heq
    refine ⟨stops_dropWhile isBlank t, t.takeWhile isBlank, ?_, ?_⟩
    · intro c hc
      exact List.mem_takeWhile_imp hc
    · exact List.takeWhile_append_dropWhile.symm
  · intro h
    obtain ⟨hm, u, hu, rfl⟩ := h
    exact dropWhile_run hu hm

/-- Leading blanks are removed, and nothing else. -/
theorem trimStart_append (hu : AllBlank u) (hm : Stops isBlank m) : trimStart (u ++ m) = m :=
  trimStart_eq_iff.2 ⟨hm, u, hu, rfl⟩

/-- What is removed from the start is blank. -/
theorem exists_trimStart (t : Text) : ∃ u, AllBlank u ∧ t = u ++ t.trimStart :=
  (trimStart_eq_iff.1 rfl).2

/-- No blank is left at the start. -/
theorem stops_trimStart (t : Text) : Stops isBlank t.trimStart :=
  (trimStart_eq_iff.1 rfl).1

/-- Trimming the end is trimming the start of the text read backwards. -/
theorem trimEnd_eq_reverse (t : Text) : t.trimEnd = (trimStart t.reverse).reverse :=
  rfl

/-- What is left after the trailing blanks are removed starts as the text did, or is empty. -/
theorem stops_trimEnd {p : Char → Bool} (h : Stops p t) : Stops p t.trimEnd := by
  obtain ⟨v, -, hv⟩ := exists_trimStart t.reverse
  have ht : t = t.trimEnd ++ v.reverse := by
    rw [trimEnd_eq_reverse, ← List.reverse_append, ← hv, List.reverse_reverse]
  intro c hc
  apply h c
  rw [ht, List.head?_append, hc]
  rfl

/-- **Trimming finds the tight middle of a text.** -/
theorem trim_eq_iff :
    t.trim = m ↔ Tight m ∧ ∃ u v, AllBlank u ∧ AllBlank v ∧ t = u ++ m ++ v := by
  constructor
  · intro heq
    subst heq
    obtain ⟨u, hu, ht⟩ := exists_trimStart t
    obtain ⟨v, hv, hend⟩ := exists_trimStart t.trimStart.reverse
    refine ⟨⟨stops_trimEnd (stops_trimStart t), ?_⟩, u, v.reverse, hu, hv.reverse, ?_⟩
    · rw [trim, trimEnd_eq_reverse, List.reverse_reverse]
      exact stops_trimStart _
    · have hstart : t.trimStart = t.trim ++ v.reverse := by
        rw [trim, trimEnd_eq_reverse, ← List.reverse_append, ← hend, List.reverse_reverse]
      rw [List.append_assoc, ← hstart]
      exact ht
  · intro h
    obtain ⟨⟨hstart, hend⟩, u, v, hu, hv, rfl⟩ := h
    cases m with
    | nil =>
        have hall : trimStart (u ++ [] ++ v) = [] := by
          rw [List.append_nil]
          exact trimStart_eq_iff.2 ⟨stops_nil, u ++ v, allBlank_append.2 ⟨hu, hv⟩, by simp⟩
        rw [trim, hall]
        rfl
    | cons c rest =>
        have hleft : trimStart (u ++ (c :: rest) ++ v) = c :: rest ++ v := by
          rw [List.append_assoc]
          exact trimStart_append hu (stops_cons.2 (stops_cons.1 hstart))
        rw [trim, hleft, trimEnd_eq_reverse, List.reverse_append,
          trimStart_append hv.reverse hend, List.reverse_reverse]

/-- A text is its trimmed middle between blanks. -/
theorem exists_trim (t : Text) :
    ∃ u v, AllBlank u ∧ AllBlank v ∧ t = u ++ t.trim ++ v :=
  (trim_eq_iff.1 rfl).2

/-- No blank is left at either end. -/
theorem tight_trim (t : Text) : Tight t.trim :=
  (trim_eq_iff.1 rfl).1

/-- Trimming undoes padding of a tight text. -/
theorem trim_append (hu : AllBlank u) (hv : AllBlank v) (hm : Tight m) : trim (u ++ m ++ v) = m :=
  trim_eq_iff.2 ⟨hm, u, v, hu, hv, rfl⟩

/-- Trimming leaves nothing exactly of a blank text. -/
theorem trim_eq_nil_iff : t.trim = [] ↔ AllBlank t := by
  rw [trim_eq_iff]
  constructor
  · intro h
    obtain ⟨-, u, v, hu, hv, rfl⟩ := h
    simpa using ⟨hu, hv⟩
  · intro h
    exact ⟨⟨stops_nil, stops_nil⟩, t, [], h, allBlank_nil, by simp⟩

/-- A text without blanks is tight. -/
theorem tight_of_forall (h : ∀ c ∈ t, isBlank c = false) : Tight t := by
  constructor
  · intro c hc
    exact h c (List.mem_of_mem_head? hc)
  · intro c hc
    exact h c (List.mem_reverse.1 (List.mem_of_mem_head? hc))

/-- A text that is not empty starts with a character that is not blank, once its leading blanks
are removed, and this is the first character of the trimmed text. -/
theorem head?_trim (t : Text) : t.trim.head? = t.trimStart.head? := by
  obtain ⟨u, v, hu, hv, ht⟩ := exists_trim t
  have htight := tight_trim t
  generalize t.trim = m at ht htight
  cases m with
  | nil =>
      have hall : t.trimStart = [] :=
        trimStart_eq_iff.2 ⟨stops_nil, t, by rw [ht]; simpa using ⟨hu, hv⟩, by simp⟩
      rw [hall]
  | cons c rest =>
      rw [ht, List.append_assoc, List.cons_append,
        trimStart_append hu (stops_cons.2 (stops_cons.1 htight.1))]
      rfl

end Trimming

/-! ## The first mark -/

section Marks

variable {a a' b b' t u v : Text} {c c' : Char}

/-- No character of `t` is a mark. -/
def Plain (t : Text) : Prop :=
  ∀ c ∈ t, isMark c = false

@[simp]
theorem plain_append : Plain (u ++ v) ↔ Plain u ∧ Plain v :=
  List.forall_mem_append

/-- Blanks hide no mark. -/
theorem AllBlank.plain (h : AllBlank t) : Plain t :=
  fun c hc => isMark_eq_false (Or.inr (h c hc))

/-- A word holds no mark. -/
theorem plain_of_isWord (h : ∀ c ∈ t, isWord c = true) : Plain t :=
  fun c hc => isMark_eq_false (Or.inl (h c hc))

/-- The blanks around a text hold no mark. -/
theorem plain_of_trim (h : Plain t.trim) : Plain t := by
  obtain ⟨u, v, hu, hv, ht⟩ := exists_trim t
  rw [ht]
  exact plain_append.2 ⟨plain_append.2 ⟨hu.plain, h⟩, hv.plain⟩

/-- **The first mark of a text is unique**, and so are the parts before and after it. -/
theorem first_mark_unique (ha : Plain a) (ha' : Plain a') (hc : isMark c = true)
    (hc' : isMark c' = true) (h : a ++ c :: b = a' ++ c' :: b') : a = a' ∧ c = c' ∧ b = b' := by
  have hrun : ∀ {t : Text}, Plain t → ∀ x ∈ t, (!isMark x) = true := by
    intro t ht x hx
    rw [ht x hx]
    rfl
  obtain ⟨hfront, hrest⟩ := span_unique (hrun ha) (hrun ha') (stops_cons.2 (by simp [hc]))
    (stops_cons.2 (by simp [hc'])) h
  exact ⟨hfront, List.cons.inj hrest⟩

end Marks

/-! ## Words, cuts and enclosures -/

section Parts

variable {p : Char → Bool} {t w rest : Text}

/-- A text has one line if it holds no line feed. -/
theorem isOneLine_iff : t.isOneLine = true ↔ '\n' ∉ t := by
  simp only [isOneLine, List.all_eq_true, decide_eq_true_eq]
  constructor
  · intro h hmem
    exact h '\n' hmem rfl
  · intro h c hc heq
    exact h (heq ▸ hc)

/-- A token is a nonempty run of word characters. -/
theorem isToken_iff : t.isToken = true ↔ t ≠ [] ∧ ∀ c ∈ t, isWord c = true := by
  cases t <;> simp [isToken]

/-- A name is a letter and a run of word characters. -/
theorem isName_iff :
    t.isName = true ↔ ∃ c rest, t = c :: rest ∧ c.isAlpha = true ∧ ∀ x ∈ rest, isWord x = true := by
  cases t with
  | nil => simp [isName]
  | cons c rest =>
      simp only [isName, Bool.and_eq_true, List.all_eq_true]
      constructor
      · intro h
        obtain ⟨hc, hrest⟩ := h
        exact ⟨c, rest, rfl, hc, hrest⟩
      · intro h
        obtain ⟨c', rest', heq, hc, hrest⟩ := h
        cases heq
        exact ⟨hc, hrest⟩

/-- A name is a token. -/
theorem isToken_of_isName (h : t.isName = true) : t.isToken = true := by
  obtain ⟨c, rest, rfl, hc, hrest⟩ := isName_iff.1 h
  refine isToken_iff.2 ⟨by simp, ?_⟩
  intro x hx
  rcases List.mem_cons.1 hx with rfl | hx
  · exact isWord_of_isAlpha hc
  · exact hrest x hx

/-- Word characters stand tight. -/
theorem tight_of_isWord (h : ∀ c ∈ t, isWord c = true) : Tight t :=
  tight_of_forall fun c hc => isBlank_of_isWord (h c hc)

/-- A word ends at blanks, or where it would end without them. -/
theorem stops_isWord_of_allBlank (hblank : AllBlank w) (hrest : Stops isWord rest) :
    Stops isWord (w ++ rest) := by
  cases w with
  | nil => exact hrest
  | cons c more => exact stops_cons.2 (isWord_of_isBlank (hblank c List.mem_cons_self))

/-- Spanning a word gives the word that the text is written with. -/
theorem spanWord_run (hw : ∀ c ∈ w, isWord c = true) (hrest : Stops isWord rest) :
    spanWord (w ++ rest) = (w, rest) := by
  rw [spanWord, takeWhile_run hw hrest, dropWhile_run hw hrest]

/-- What is spanned consists of word characters. -/
theorem isWord_of_mem_spanWord (h : t.spanWord = (w, rest)) : ∀ c ∈ w, isWord c = true := by
  intro c hc
  cases h
  exact List.mem_takeWhile_imp hc

/-- A word is spanned to its end. -/
theorem stops_of_spanWord (h : t.spanWord = (w, rest)) : Stops isWord rest := by
  cases h
  exact stops_dropWhile isWord t

/-- A token does not start with a blank. -/
theorem stops_isBlank_token (h : t.isToken = true) (rest : Text) : Stops isBlank (t ++ rest) := by
  obtain ⟨hne, hword⟩ := isToken_iff.1 h
  cases t with
  | nil => exact absurd rfl hne
  | cons c more => exact stops_cons.2 (isBlank_of_isWord (hword c List.mem_cons_self))

/-- What comes after a prefix is what the text is written with behind it. -/
theorem after?_eq_some : t.after? w = some rest ↔ t = w ++ rest := by
  rw [after?, List.isPrefixOf?_eq_some_iff_append_eq]
  exact eq_comm

/-- A word is followed by a blank, and all blanks there are skipped. -/
theorem afterWord?_eq_some :
    t.afterWord? w = some rest ↔
      ∃ c more, t = w ++ c :: more ∧ isBlank c = true ∧ rest = trimStart more := by
  constructor
  · intro h
    unfold afterWord? at h
    split at h
    · rename_i c more heq
      split at h
      · rename_i hblank
        exact ⟨c, more, after?_eq_some.1 heq, hblank, (Option.some.inj h).symm⟩
      · cases h
    · cases h
  · intro h
    obtain ⟨c, more, ht, hblank, rfl⟩ := h
    rw [afterWord?, after?_eq_some.2 ht]
    simp [hblank]

/-- A text starts with one word only. -/
theorem afterWord?_unique {w' rest' : Text} (hw : w.isToken = true) (hw' : w'.isToken = true)
    (h : t.afterWord? w = some rest) (h' : t.afterWord? w' = some rest') : w = w' := by
  obtain ⟨c, more, ht, hc, -⟩ := afterWord?_eq_some.1 h
  obtain ⟨c', more', ht', hc', -⟩ := afterWord?_eq_some.1 h'
  exact (span_unique (isToken_iff.1 hw).2 (isToken_iff.1 hw').2
    (stops_cons.2 (isWord_of_isBlank hc)) (stops_cons.2 (isWord_of_isBlank hc'))
    (ht.symm.trans ht')).1

/-- A cut is made at the first character of the class. -/
theorem cut?_eq_some_iff {before after : Text} :
    t.cut? p = some (before, after) ↔
      ∃ c, p c = true ∧ t = before ++ c :: after ∧ ∀ x ∈ before, p x = false := by
  constructor
  · exact cut?_eq_some
  · intro h
    obtain ⟨c, hc, rfl, hbefore⟩ := h
    have hrun : ∀ x ∈ before, (!p x) = true := by
      intro x hx
      simp [hbefore x hx]
    have hstop : Stops (!p ·) (c :: after) := by simp [hc]
    rw [cut?, dropWhile_run hrun hstop, takeWhile_run hrun hstop]

/-- The enclosing characters are the first and the last. -/
theorem enclosed?_eq_some {o c : Char} {inner : Text} :
    t.enclosed? o c = some inner ↔ t = o :: inner ++ [c] := by
  cases t with
  | nil => simp [enclosed?]
  | cons x tail =>
      simp only [enclosed?, List.cons_append, List.cons.injEq, Option.ite_none_right_eq_some,
        Option.some.injEq]
      constructor
      · intro h
        obtain ⟨⟨rfl, hlast⟩, rfl⟩ := h
        exact ⟨rfl, (List.dropLast_append_getLast? c hlast).symm⟩
      · intro h
        obtain ⟨rfl, rfl⟩ := h
        simp

theorem join_cons_cons (separator first second : Text) (more : List Text) :
    join separator (first :: second :: more) =
      first ++ (separator ++ join separator (second :: more)) := by
  simp [join, List.intercalate_cons_cons]

/-- A character of a joined text stands in the separator or in one of the parts. -/
theorem mem_join {separator : Text} {parts : List Text} {c : Char} (h : c ∈ join separator parts) :
    c ∈ separator ∨ ∃ part ∈ parts, c ∈ part := by
  induction parts with
  | nil => simp [join] at h
  | cons first more ih =>
      cases more with
      | nil => exact Or.inr ⟨first, by simp, by simpa [join] using h⟩
      | cons second more =>
          rw [join_cons_cons, List.mem_append, List.mem_append] at h
          rcases h with h | h | h
          · exact Or.inr ⟨first, by simp, h⟩
          · exact Or.inl h
          · rcases ih h with h | ⟨part, hpart, hmem⟩
            · exact Or.inl h
            · exact Or.inr ⟨part, List.mem_cons_of_mem _ hpart, hmem⟩

/-- A character other than the separator stands in one of the pieces. -/
theorem exists_mem_splitOn {c d : Char} (hne : c ≠ d) (h : c ∈ t) :
    ∃ piece ∈ t.splitOn d, c ∈ piece := by
  induction t with
  | nil => cases h
  | cons x t ih =>
      rw [List.splitOn_cons_eq_if_modifyHead]
      split
      · rename_i hx
        obtain rfl : x = d := by simpa using hx
        rcases List.mem_cons.1 h with rfl | h
        · exact absurd rfl hne
        · obtain ⟨piece, hpiece, hmem⟩ := ih h
          exact ⟨piece, List.mem_cons_of_mem _ hpiece, hmem⟩
      · cases hpieces : t.splitOn d with
        | nil => exact absurd hpieces (List.splitOn_ne_nil d t)
        | cons first pieces =>
            rw [hpieces] at ih
            rw [List.modifyHead_cons]
            rcases List.mem_cons.1 h with rfl | h
            · exact ⟨c :: first, List.mem_cons_self, List.mem_cons_self⟩
            · obtain ⟨piece, hpiece, hmem⟩ := ih h
              rcases List.mem_cons.1 hpiece with rfl | hpiece
              · exact ⟨x :: piece, List.mem_cons_self, List.mem_cons_of_mem _ hmem⟩
              · exact ⟨piece, List.mem_cons_of_mem _ hpiece, hmem⟩

/-- A text is read as tokens if each of its items is one. -/
theorem tokens?_eq_some {items : List Text} :
    t.tokens? = some items ↔ t.items = items ∧ ∀ item ∈ items, item.isToken = true := by
  simp only [tokens?, Option.ite_none_right_eq_some, Option.some.injEq, List.all_eq_true]
  constructor
  · intro h
    obtain ⟨h, rfl⟩ := h
    exact ⟨rfl, h⟩
  · intro h
    obtain ⟨rfl, h⟩ := h
    exact ⟨h, rfl⟩

/-- A token with blanks around it is a list of one token. -/
theorem tokens?_of_isToken (h : t.trim.isToken = true) : t.tokens? = some [t.trim] := by
  have hcomma : ',' ∉ t := by
    intro hmem
    have hmark := plain_of_trim (plain_of_isWord (isToken_iff.1 h).2) ',' hmem
    cases hmark
  have hitems : t.items = [t.trim] := by
    rw [items, List.splitOn_eq_singleton hcomma]
    rfl
  exact tokens?_eq_some.2 ⟨hitems, by simpa using h⟩

/-- A text that is one item is that item with blanks around it. -/
theorem trim_of_items {item : Text} (h : t.items = [item]) : t.trim = item := by
  obtain ⟨piece, hpieces, rfl⟩ := List.map_eq_singleton_iff.1 h
  have hjoin : [','].intercalate (t.splitOn ',') = t := List.intercalate_splitOn ','
  rw [hpieces, List.intercalate_singleton] at hjoin
  rw [hjoin]

/-- A list of one token is a token with blanks around it. -/
theorem tokens?_eq_singleton {item : Text} :
    t.tokens? = some [item] ↔ t.trim = item ∧ item.isToken = true := by
  constructor
  · intro h
    obtain ⟨hitems, htokens⟩ := tokens?_eq_some.1 h
    exact ⟨trim_of_items hitems, htokens item List.mem_cons_self⟩
  · intro h
    obtain ⟨rfl, htoken⟩ := h
    exact tokens?_of_isToken htoken

/-- A text that is no list of one token is no token. -/
theorem isToken_trim_eq_false (h : t.tokens? ≠ some [t.trim]) : t.trim.isToken = false := by
  by_contra htoken
  exact h (tokens?_of_isToken (by simpa using htoken))

/-- The only mark in a list of tokens is the comma. -/
theorem isMark_of_tokens? {items : List Text} {c : Char} (h : t.tokens? = some items) (hc : c ∈ t)
    (hne : c ≠ ',') : isMark c = false := by
  obtain ⟨rfl, htokens⟩ := tokens?_eq_some.1 h
  obtain ⟨piece, hpiece, hmem⟩ := exists_mem_splitOn hne hc
  have htoken := htokens (trim piece) (List.mem_map_of_mem hpiece)
  exact plain_of_trim (plain_of_isWord (isToken_iff.1 htoken).2) c hmem

end Parts

end Text

end MacroBody
