import Mathlib.Data.List.Basic
import MacroBody.Proofs.Grammar.Marker

/-!
# The range keyword at the start of other lines

A line of another kind starts with a name, and after the name and some blanks it ends or has a mark.
Whether an address range claims such a line depends on its name alone: the keyword holds no mark and
ends with a letter, so it cannot reach beyond the name (`RangeWord.append_eq`).

* `announced_iff` — the keyword is the start of the name, and it ends there;
* `announced_iff_of_token` — the name is the keyword, spelled as one token;
* `announced_iff_of_keyword` — the name is that of a limit to be added, and ends the keyword.

A line that is claimed in this way has no bounds, and is rejected, if its first mark after the
keyword is not a dot.
-/

namespace MacroBody.AddressRange

open Text

/-- A spelling of the range keyword that is one token. -/
def RangeName (t : Text) : Prop :=
  t = "range".toList ∨ ∃ n, t = "add".toList ++ List.replicate n '_' ++ "range".toList

/-! ## The spellings of the keyword -/

theorem RangeWord.plain {w : Text} (h : RangeWord w) : Plain w := by
  have hrange : Plain "range".toList := plain_of_isWord (List.all_eq_true.1 (by decide))
  rcases h with rfl | ⟨joints, hjoints, rfl⟩
  · exact hrange
  · have hadd : Plain "add".toList := plain_of_isWord (List.all_eq_true.1 (by decide))
    refine plain_append.2 ⟨plain_append.2 ⟨hadd, ?_⟩, hrange⟩
    intro c hc
    rcases hjoints c hc with hblank | rfl | rfl
    · exact isMark_eq_false (Or.inr hblank)
    · rfl
    · rfl

/-- The keyword ends with a letter. -/
theorem RangeWord.getLast? {w : Text} (h : RangeWord w) : w.getLast? = some 'e' := by
  rcases h with rfl | ⟨joints, -, rfl⟩
  · rfl
  · rw [List.getLast?_append]
    rfl

theorem RangeName.rangeWord {t : Text} (h : RangeName t) : RangeWord t := by
  rcases h with rfl | ⟨n, rfl⟩
  · exact Or.inl rfl
  · refine Or.inr ⟨List.replicate n '_', ?_, rfl⟩
    intro c hc
    exact Or.inr (Or.inl (List.eq_of_mem_replicate hc))

/-- Joints that are word characters are underscores. -/
theorem eq_replicate_of_joints {joints : Text}
    (hjoints : ∀ c ∈ joints, isBlank c = true ∨ c = '_' ∨ c = '-')
    (hword : ∀ c ∈ joints, isWord c = true) : joints = List.replicate joints.length '_' := by
  refine List.eq_replicate_of_mem ?_
  intro c hc
  have hc' := hword c hc
  rcases hjoints c hc with hblank | rfl | rfl
  · rw [isWord_of_isBlank hblank] at hc'
    cases hc'
  · rfl
  · exact absurd hc' (by decide)

/-- Spelled as one token, the keyword has no joints but underscores. -/
theorem RangeWord.rangeName {w : Text} (h : RangeWord w) (hword : ∀ c ∈ w, isWord c = true) :
    RangeName w := by
  rcases h with rfl | ⟨joints, hjoints, rfl⟩
  · exact Or.inl rfl
  · have hunderscores := eq_replicate_of_joints hjoints
      (fun c hc => hword c (List.mem_append_left _ (List.mem_append_right _ hc)))
    exact Or.inr ⟨joints.length, by rw [← hunderscores]⟩

/-- **The keyword stays within the name.**  What follows the name is blank up to a mark or to the
end, and the keyword has no mark and no blank at its end. -/
theorem RangeWord.append_eq {w rest name gap more : Text} (hw : RangeWord w) (hgap : AllBlank gap)
    (hmore : Stops (!isMark ·) more) (h : w ++ rest = name ++ (gap ++ more)) :
    ∃ x, name = w ++ x ∧ rest = x ++ (gap ++ more) := by
  rcases List.append_eq_append_iff.1 h with ⟨x, hname, hrest⟩ | ⟨y, hword, hrest⟩
  · exact ⟨x, hname, hrest⟩
  · -- Here `y` is the part of the keyword that would stand behind the name.
    have hplain : Plain y := (plain_append.1 (hword ▸ hw.plain)).2
    have hblank : AllBlank y := by
      rcases List.append_eq_append_iff.1 hrest with ⟨z, hy, hz⟩ | ⟨z, hz, -⟩
      · cases z with
        | nil =>
            rw [hy, List.append_nil]
            exact hgap
        | cons c z =>
            have hmark : isMark c = true := by
              rw [hz] at hmore
              simpa using hmore
            rw [hplain c (by rw [hy]; simp)] at hmark
            cases hmark
      · intro c hc
        exact hgap c (by rw [hz]; exact List.mem_append_left _ hc)
    cases hy : y.getLast? with
    | none =>
        obtain rfl := List.getLast?_eq_none_iff.1 hy
        exact ⟨[], by simpa using hword.symm, by simpa using hrest.symm⟩
    | some c =>
        have hlast := hw.getLast?
        rw [hword, List.getLast?_append, hy] at hlast
        obtain rfl : c = 'e' := by simpa using hlast
        exact absurd (hblank 'e' (List.mem_of_getLast? hy)) (by decide)

/-! ## Lines that start with a name -/

section Named

variable {u name gap more : Text}

/-- On a line that starts with a name, the keyword is the start of the name. -/
theorem announced_iff (hu : AllBlank u) (hname : Stops isBlank (name ++ (gap ++ more)))
    (hgap : AllBlank gap) (hmore : Stops (!isMark ·) more) :
    Announced (u ++ name ++ (gap ++ more)) ↔
      ∃ w x, RangeWord w ∧ name = w ++ x ∧ Ends (x ++ (gap ++ more)) := by
  constructor
  · intro h
    obtain ⟨blanks, w, rest, hblanks, hw, hline, hends⟩ := h
    have hstart : w ++ rest = name ++ (gap ++ more) := by
      rw [List.append_assoc, List.append_assoc] at hline
      rw [← trimStart_append hblanks (hw.stops rest), ← hline, trimStart_append hu hname]
    obtain ⟨x, rfl, rfl⟩ := hw.append_eq hgap hmore hstart
    exact ⟨w, x, hw, rfl, hends⟩
  · intro h
    obtain ⟨w, x, hw, rfl, hends⟩ := h
    exact ⟨u, w, x ++ (gap ++ more), hu, hw, by simp, hends⟩

/-- A word character does not end the keyword. -/
theorem eq_nil_of_ends {x rest : Text} (hx : ∀ c ∈ x, isWord c = true) (h : Ends (x ++ rest)) :
    x = [] := by
  cases x with
  | nil => rfl
  | cons c x =>
      have hc := hx c List.mem_cons_self
      rcases h with h | ⟨d, more, heq, hd⟩
      · cases h
      · obtain rfl : c = d := (List.cons.inj heq).1
        rcases hd with hblank | rfl
        · rw [isWord_of_isBlank hblank] at hc
          cases hc
        · exact absurd hc (by decide)

/-- A name of one token is claimed only as a whole. -/
theorem announced_iff_of_token (hu : AllBlank u) (hname : name.isToken = true)
    (hgap : AllBlank gap) (hmore : Stops (!isMark ·) more) :
    Announced (u ++ name ++ (gap ++ more)) ↔ RangeName name ∧ Ends (gap ++ more) := by
  have hword := (isToken_iff.1 hname).2
  rw [announced_iff hu (stops_isBlank_token hname _) hgap hmore]
  constructor
  · intro h
    obtain ⟨w, x, hw, rfl, hends⟩ := h
    obtain rfl := eq_nil_of_ends (fun c hc => hword c (List.mem_append_right _ hc)) hends
    rw [List.append_nil] at hword ⊢
    exact ⟨hw.rangeName hword, hends⟩
  · intro h
    obtain ⟨hrange, hends⟩ := h
    exact ⟨name, [], hrange.rangeWord, by simp, hends⟩

/-- A limitation is claimed when it adds a limit whose name ends the keyword. -/
theorem announced_iff_of_keyword {k : Keyword} {v : Text} (hu : AllBlank u) (hv : AllBlank v)
    (hname : name.isToken = true) (hgap : AllBlank gap) (hmore : Stops (!isMark ·) more) :
    Announced (u ++ (k.name ++ v ++ name) ++ (gap ++ more)) ↔
      k = .add ∧ (∃ n, name = List.replicate n '_' ++ "range".toList) ∧ Ends (gap ++ more) := by
  have hword := (isToken_iff.1 hname).2
  have hstops : Stops isBlank (k.name ++ v ++ name ++ (gap ++ more)) := by
    rw [List.append_assoc, List.append_assoc]
    exact k.stops_name _
  rw [announced_iff hu hstops hgap hmore]
  constructor
  · intro h
    rcases h with ⟨w, x, rfl | ⟨joints, hjoints, rfl⟩, heq, hends⟩
    · -- No limitation keyword starts as `range` does.
      rw [List.append_assoc] at heq
      cases k <;> simp [Keyword.name] at heq
    · obtain ⟨rfl, hrest⟩ : k = .add ∧ v ++ name = joints ++ ("range".toList ++ x) := by
        simp only [List.append_assoc] at heq
        cases k <;> simp_all [Keyword.name]
      -- The blanks after `add` are joints, and the name starts with the joints that are left.
      obtain ⟨tail, htail, hjoints'⟩ : ∃ tail, name = tail ++ ("range".toList ++ x) ∧
          ∀ c ∈ tail, isBlank c = true ∨ c = '_' ∨ c = '-' := by
        rcases List.append_eq_append_iff.1 hrest with ⟨y, hy, hy'⟩ | ⟨y, hy, hy'⟩
        · exact ⟨y, hy', fun c hc => hjoints c (by rw [hy]; exact List.mem_append_right _ hc)⟩
        · cases y with
          | nil => exact ⟨[], by simpa using hy'.symm, by simp⟩
          | cons c y =>
              obtain rfl : 'r' = c := (List.cons.inj hy').1
              exact absurd (hv 'r' (by rw [hy]; simp)) (by decide)
      subst htail
      obtain rfl := eq_nil_of_ends
        (fun c hc => hword c (List.mem_append_right _ (List.mem_append_right _ hc))) hends
      have hunderscores := eq_replicate_of_joints hjoints'
        (fun c hc => hword c (List.mem_append_left _ hc))
      exact ⟨rfl, ⟨tail.length, by rw [← hunderscores, List.append_nil]⟩, hends⟩
  · intro h
    obtain ⟨rfl, ⟨n, rfl⟩, hends⟩ := h
    refine ⟨"add".toList ++ (v ++ List.replicate n '_') ++ "range".toList, [], Or.inr ?_, ?_, hends⟩
    · refine ⟨v ++ List.replicate n '_', ?_, rfl⟩
      intro c hc
      rcases List.mem_append.1 hc with hc | hc
      · exact Or.inl (hv c hc)
      · exact Or.inr (Or.inl (List.eq_of_mem_replicate hc))
    · simp [Keyword.name]

end Named

/-! ## Lines without bounds -/

/-- The first mark of a text with bounds is a dot. -/
theorem first_mark_of_bounds? {t : Text} {b : Text × Text × Text} (h : bounds? t = some b) :
    ∃ front more, t = front ++ '.' :: more ∧ Plain front := by
  obtain ⟨first, last, tail⟩ := b
  obtain ⟨u, v, w, hu, hv, -, rfl, hfirst, -, -, -⟩ := bounds?_eq_some.1 h
  refine ⟨u ++ first ++ v, _, rfl, ?_⟩
  have hword : Plain first := plain_of_isWord (isToken_iff.1 hfirst).2
  exact plain_append.2 ⟨plain_append.2 ⟨hu.plain, hword⟩, hv.plain⟩

/-- A line without bounds is claimed by its keyword only. -/
theorem isDecisive_eq_false {line : Text} (hbounds : bounds? line = none)
    (h : ¬ Announced line) : (read line).isDecisive = false := by
  have hkeyword : afterKeyword? line = none := by
    rw [Option.eq_none_iff_forall_ne_some]
    intro expression hexpression
    exact h (announced_of_afterKeyword? hexpression)
  simp [read, hkeyword, hbounds]

/-- Behind the keyword there must be bounds. -/
theorem read_eq_malformed {line expression : Text} (hkeyword : afterKeyword? line = some expression)
    (hbounds : bounds? expression = none) :
    read line = .rejected (.malformedRange expression.trim) := by
  simp [read, hkeyword, hbounds]

/-- A line without a dot has no bounds anywhere. -/
theorem read_of_announced_of_dotless {line : Text} (hline : '\n' ∉ line) (hdot : '.' ∉ line)
    (h : Announced line) : ∃ text, read line = .rejected (.malformedRange text) := by
  obtain ⟨blanks, w, rest, hblanks, hw, hparts, hends⟩ := h
  have hbounds : bounds? (expressionOf rest) = none := by
    rw [Option.eq_none_iff_forall_ne_some]
    intro b hb
    obtain ⟨front, more, heq, -⟩ := first_mark_of_bounds? hb
    apply hdot
    rw [hparts]
    exact List.mem_append_right _ ((expressionOf_suffix rest).mem (by rw [heq]; simp))
  exact ⟨_, read_eq_malformed (afterKeyword?_of_announced hline hblanks hw hparts hends) hbounds⟩

theorem bounds?_of_dotless {line : Text} (hdot : '.' ∉ line) : bounds? line = none := by
  rw [Option.eq_none_iff_forall_ne_some]
  intro b hb
  obtain ⟨front, more, rfl, -⟩ := first_mark_of_bounds? hb
  simp at hdot

/-- Where the first mark is a parenthesis, there are no bounds. -/
theorem bounds?_of_paren {front rest : Text} (hplain : Plain front) :
    bounds? (front ++ '(' :: rest) = none := by
  rw [Option.eq_none_iff_forall_ne_some]
  intro b hb
  obtain ⟨front', more, heq, hplain'⟩ := first_mark_of_bounds? hb
  cases (first_mark_unique hplain hplain' rfl rfl heq).2.1

/-- Where the first mark is a parenthesis, it starts the expression after the keyword. -/
theorem read_of_announced_of_paren {front more : Text} (hline : '\n' ∉ front ++ '(' :: more)
    (hplain : Plain front) (h : Announced (front ++ '(' :: more)) :
    ∃ text, read (front ++ '(' :: more) = .rejected (.malformedRange text) := by
  obtain ⟨blanks, w, rest, hblanks, hw, hparts, hends⟩ := h
  -- The keyword ends before the parenthesis.
  obtain ⟨x, hfront, rfl⟩ : ∃ x, front = blanks ++ w ++ x ∧ rest = x ++ '(' :: more := by
    rcases List.append_eq_append_iff.1 hparts with ⟨y, hy, hrest⟩ | ⟨x, hx, hrest⟩
    · cases y with
      | nil => exact ⟨[], by simpa using hy.symm, by simpa using hrest.symm⟩
      | cons c y =>
          obtain rfl : '(' = c := (List.cons.inj hrest).1
          have hmark := (plain_append.2 ⟨hblanks.plain, hw.plain⟩) '(' (by rw [hy]; simp)
          cases hmark
    · exact ⟨x, hx, hrest⟩
  have hx : Plain x := (plain_append.1 (hfront ▸ hplain)).2
  obtain ⟨gap, hgap, hgap'⟩ := exists_trimStart (x ++ '(' :: more)
  have hcolon : ∀ text, trimStart (x ++ '(' :: more) ≠ ':' :: text := by
    intro text htext
    rw [htext] at hgap'
    cases (first_mark_unique hx hgap.plain rfl rfl hgap').2.1
  have hbounds : bounds? (expressionOf (x ++ '(' :: more)) = none := by
    rw [expressionOf_other hcolon, Option.eq_none_iff_forall_ne_some]
    intro b hb
    obtain ⟨front', more', heq, hfront'⟩ := first_mark_of_bounds? hb
    rw [heq, ← List.append_assoc] at hgap'
    cases (first_mark_unique hx (plain_append.2 ⟨hgap.plain, hfront'⟩) rfl rfl hgap').2.1
  exact ⟨_, read_eq_malformed (afterKeyword?_of_announced hline hblanks hw hparts hends) hbounds⟩

end MacroBody.AddressRange
