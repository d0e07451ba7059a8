import Mathlib.Data.String.Basic
import MacroBody.Text.Basic

/-!
# Positions in bytes

A character takes one to four bytes, so a position that is counted in bytes can fall inside a
character.  A text can be cut only at positions that do not, and a part of it can be taken only
between two such positions that are in order (`slice?`).

The key local fact is `atByte?_eq_some`: a text is cut at a position exactly if a start of the text
takes that many bytes.
-/

namespace MacroBody.Text

open String (utf8Len)

/-- The text before and after a position in bytes.  There is none inside a character or behind the
end. -/
def atByte? : Text → Nat → Option (Text × Text)
  | t, 0 => some ([], t)
  | [], _ + 1 => none
  | c :: t, n + 1 =>
    if c.utf8Size ≤ n + 1 then
      (atByte? t (n + 1 - c.utf8Size)).map fun (before, after) => (c :: before, after)
    else none

/-- The part of the text from one position in bytes to another one, if the text can be cut at both
and they are in order. -/
def slice? (t : Text) (start stop : Nat) : Option Text := do
  let (upTo, _) ← atByte? t stop
  let (_, part) ← atByte? upTo start
  some part

/-- Whether a position in bytes is between two characters of the text or at one of its ends. -/
def IsBoundary (t : Text) (n : Nat) : Prop :=
  (⟨n⟩ : String.Pos.Raw).IsValid (String.ofList t)

variable {t part before after : Text} {n start stop : Nat}

theorem atByte?_zero (t : Text) : atByte? t 0 = some ([], t) := by
  cases t <;> rfl

/-- A character is passed with all its bytes. -/
theorem atByte?_cons (c : Char) (t : Text) (n : Nat) :
    atByte? (c :: t) (c.utf8Size + n) =
      (atByte? t n).map fun (before, after) => (c :: before, after) := by
  obtain ⟨m, hm⟩ : ∃ m, c.utf8Size + n = m + 1 :=
    Nat.exists_eq_succ_of_ne_zero (by have := c.utf8Size_pos; omega)
  rw [hm, atByte?, ← hm, if_pos (Nat.le_add_right _ _), Nat.add_sub_cancel_left]

/-- A text is cut behind a start of it. -/
theorem atByte?_append (before after : Text) :
    atByte? (before ++ after) (utf8Len before) = some (before, after) := by
  induction before with
  | nil => exact atByte?_zero after
  | cons c before ih =>
      rw [String.utf8Len_cons, Nat.add_comm, List.cons_append, atByte?_cons, ih]
      rfl

/-- **A text is cut exactly behind its starts.** -/
theorem atByte?_eq_some :
    atByte? t n = some (before, after) ↔ t = before ++ after ∧ n = utf8Len before := by
  constructor
  · intro h
    induction t generalizing n before with
    | nil =>
        cases n with
        | zero => cases h; exact ⟨rfl, String.utf8Len_nil.symm⟩
        | succ n => cases h
    | cons c t ih =>
        cases n with
        | zero => cases h; exact ⟨rfl, String.utf8Len_nil.symm⟩
        | succ n =>
            rw [atByte?] at h
            split at h
            · rename_i hfits
              obtain ⟨⟨front, rest⟩, hfront, heq⟩ := Option.map_eq_some_iff.1 h
              cases heq
              obtain ⟨rfl, hlength⟩ := ih hfront
              refine ⟨rfl, ?_⟩
              rw [String.utf8Len_cons, ← hlength]
              omega
            · cases h
  · intro h
    obtain ⟨rfl, rfl⟩ := h
    exact atByte?_append before after

/-- **A part of a text is taken by the bytes before it and the bytes up to its end.** -/
theorem slice?_eq_some :
    slice? t start stop = some part ↔ ∃ before after, t = before ++ part ++ after ∧
      start = utf8Len before ∧ stop = utf8Len (before ++ part) := by
  constructor
  · intro h
    obtain ⟨⟨upTo, after⟩, hstop, h⟩ := Option.bind_eq_some_iff.1 h
    obtain ⟨⟨before, part'⟩, hstart, h⟩ := Option.bind_eq_some_iff.1 h
    cases h
    obtain ⟨rfl, rfl⟩ := atByte?_eq_some.1 hstop
    obtain ⟨rfl, rfl⟩ := atByte?_eq_some.1 hstart
    exact ⟨before, after, rfl, rfl, rfl⟩
  · intro h
    obtain ⟨before, after, rfl, rfl, rfl⟩ := h
    simp only [slice?, atByte?_append, Option.bind_eq_bind, Option.bind_some]

/-- The position behind a start of a text is between two characters. -/
theorem isBoundary_append (before after : Text) :
    IsBoundary (before ++ after) (utf8Len before) := by
  rw [IsBoundary, String.Pos.Raw.isValid_iff_exists_append]
  exact ⟨String.ofList before, String.ofList after, String.ofList_append,
    (String.rawEndPos_ofList before).symm⟩

end MacroBody.Text
