import MacroBody.Proofs.Text.Joined

/-!
# Parts of a text

A grammar returns texts that it has cut out of a line.  `InOrder parts t` says that the parts stand
in `t` one after the other: each of them is contiguous, and none begins before the one before it has
ended.

The key local fact is `InOrder.append`: what is in order in two texts is in order in the two texts
put together.  So a line can be taken apart in the order in which it is written, and blanks and marks
between the parts do not matter.
-/

namespace MacroBody.Text

/-- The parts stand in the text one after the other, without overlapping. -/
def InOrder : List Text → Text → Prop
  | [], _ => True
  | part :: parts, t => ∃ gap rest, t = gap ++ part ++ rest ∧ InOrder parts rest

variable {part t t' : Text} {parts parts' : List Text}

@[simp]
theorem inOrder_nil (t : Text) : InOrder [] t := trivial

/-- A part stands before parts that are in order behind it. -/
theorem InOrder.cons (h : InOrder parts t) (gap part : Text) :
    InOrder (part :: parts) (gap ++ part ++ t) :=
  ⟨gap, t, rfl, h⟩

/-- Parts stay in order if text is put in front. -/
theorem InOrder.append_left (h : InOrder parts t) (front : Text) : InOrder parts (front ++ t) := by
  cases parts with
  | nil => exact inOrder_nil _
  | cons part parts =>
      obtain ⟨gap, rest, rfl, hrest⟩ := h
      exact ⟨front ++ gap, rest, by simp, hrest⟩

/-- **Parts in order of two texts are in order in both together.** -/
theorem InOrder.append (h : InOrder parts t) (h' : InOrder parts' t') :
    InOrder (parts ++ parts') (t ++ t') := by
  induction parts generalizing t with
  | nil => exact h'.append_left t
  | cons part parts ih =>
      obtain ⟨gap, rest, rfl, hrest⟩ := h
      exact ⟨gap, rest ++ t', by simp, ih hrest⟩

/-- Parts stay in order if text is put behind. -/
theorem InOrder.append_right (h : InOrder parts t) (tail : Text) : InOrder parts (t ++ tail) := by
  have hboth := h.append (inOrder_nil tail)
  rwa [List.append_nil] at hboth

/-- What is in order in a part of a text is in order in the text. -/
theorem InOrder.mono (h : InOrder parts t) (hwithin : t <:+: t') : InOrder parts t' := by
  obtain ⟨front, tail, rfl⟩ := hwithin
  exact (h.append_left front).append_right tail

/-- A single part stands anywhere in the text. -/
@[simp]
theorem inOrder_singleton : InOrder [part] t ↔ part <:+: t := by
  constructor
  · intro h
    obtain ⟨gap, rest, rfl, -⟩ := h
    exact ⟨gap, rest, rfl⟩
  · intro h
    obtain ⟨gap, rest, rfl⟩ := h
    exact ⟨gap, rest, rfl, inOrder_nil rest⟩

/-- Each of the parts stands in the text. -/
theorem InOrder.isInfix (h : InOrder parts t) (hpart : part ∈ parts) : part <:+: t := by
  induction parts generalizing t with
  | nil => cases hpart
  | cons first parts ih =>
      obtain ⟨gap, rest, rfl, hrest⟩ := h
      rcases List.mem_cons.1 hpart with rfl | hpart
      · exact ⟨gap, rest, rfl⟩
      · exact (ih hrest hpart).trans (List.suffix_append (gap ++ first) rest).isInfix

/-! ## Trimmed texts and lists -/

/-- What is left by trimming is a part of the text. -/
theorem isInfix_trim (t : Text) : t.trim <:+: t := by
  obtain ⟨u, v, -, -, ht⟩ := exists_trim t
  exact ⟨u, v, ht.symm⟩

/-- Trimming the start leaves an end of the text. -/
theorem trimStart_suffix (t : Text) : t.trimStart <:+ t :=
  List.dropWhile_suffix isBlank

/-- What follows a word and blanks ends the text. -/
theorem suffix_of_afterWord? {w rest : Text} (h : t.afterWord? w = some rest) : rest <:+ t := by
  obtain ⟨c, more, rfl, -, rfl⟩ := afterWord?_eq_some.1 h
  have hmore : more <:+ w ++ c :: more := ⟨w ++ [c], by simp⟩
  exact (trimStart_suffix more).trans hmore

/-- The trimmed parts of a joined text are in order in it. -/
theorem inOrder_map_trim_join (separator : Text) (parts : List Text) :
    InOrder (parts.map trim) (join separator parts) := by
  induction parts with
  | nil => exact inOrder_nil _
  | cons first more ih =>
      have hfirst : InOrder [first.trim] first := inOrder_singleton.2 (isInfix_trim first)
      cases more with
      | nil => simpa [join] using isInfix_trim first
      | cons second more =>
          rw [join_cons_cons]
          exact hfirst.append (ih.append_left separator)

/-- The items of a list are in order in it. -/
theorem inOrder_items (t : Text) : InOrder t.items t := by
  have hjoin : join [','] (t.splitOn ',') = t := List.intercalate_splitOn ','
  have hparts := inOrder_map_trim_join [','] (t.splitOn ',')
  rwa [hjoin] at hparts

end MacroBody.Text
