import MacroBody.Proofs.Arguments.Balanced

/-!
# Argument lists put together

A list that can be split may be continued with a comma and a second list
(`split_homomorphism`).  The second list is then split as it would be alone: its arguments come after
those of the first, and a fault of it is reported with all the text that stands before it.  A list
that closes a parenthesis too early cannot be mended by what follows.

The key local fact is `piecesFrom_behind`.  When the pass arrives at a comma at the top, nothing is
open and the piece is empty, as at the start of a list; what it has seen until then is the one thing
that differs, and this shows nowhere but in a fault.
-/

namespace MacroBody.Arguments

/-- A fault in text that follows characters already seen, last first. -/
def Fault.behind (before : Text) : Fault → Fault
  | closeUnopened seen => closeUnopened (seen ++ before)
  | leftOpen => leftOpen

variable {frames : List Frame} {piece seen : Text}

/-- **What was seen before shows in faults only.**  The pass itself never looks at it. -/
theorem piecesFrom_behind (before t : Text) :
    piecesFrom frames piece (seen ++ before) t =
      (piecesFrom frames piece seen t).mapError (Fault.behind before) := by
  induction t generalizing frames piece seen with
  | nil => cases frames <;> rfl
  | cons c rest ih =>
      simp only [piecesFrom]
      cases step frames c with
      | goOn frames' =>
          rw [← List.cons_append]
          exact ih
      | endPiece =>
          simp only
          rw [← List.cons_append, ih]
          cases piecesFrom [] [] (c :: seen) rest <;> rfl
      | closeUnopened => rfl

theorem glue_nil_cons {parts : List Text} (h : parts ≠ []) (later : List Text) :
    glue parts ([] :: later) = parts ++ later := by
  induction parts with
  | nil => exact absurd rfl h
  | cons first more ih =>
      cases more with
      | nil => simp [glue]
      | cons next more =>
          rw [glue_cons first (by simp), ih (by simp)]
          rfl

/-- **After a comma at the top the pass starts anew.** -/
theorem pieces_text_comma (r : Reading) (b : Text) :
    pieces (r.text ++ ',' :: b) =
      ((pieces b).mapError (Fault.behind (',' :: r.text.reverse))).map (r.pieces ++ ·) := by
  have hanew : piecesFrom [] [] (',' :: r.text.reverse) b =
      (pieces b).mapError (Fault.behind (',' :: r.text.reverse)) := by
    rw [pieces, ← piecesFrom_behind, List.nil_append]
  have hcomma : step [] ',' = .endPiece := by
    decide
  rw [pieces, piecesFrom_nil_text, piecesFrom, hcomma]
  simp only [List.append_nil, hanew]
  cases (pieces b).mapError (Fault.behind (',' :: r.text.reverse)) with
  | error fault => rfl
  | ok later => simp [Except.map, glue_nil_cons r.pieces_ne_nil]

/-- **Splitting goes through a comma.**  Behind a list that is split and a comma a second list is split
as it would be alone: its arguments come after the first ones, and its fault is reported with the
text from the start of the first list on.  There are no other outcomes for the second list.  An
unexpected parenthesis in a list stays unexpected whatever follows. -/
theorem split_homomorphism (a b c : Text) :
    (∀ xs, split a = .ok xs →
      (∀ ys, split b = .ok ys → split (a ++ ',' :: b) = .ok (xs ++ ys)) ∧
      (∀ q, split b = .error (.unexpectedCloseParen q) →
        split (a ++ ',' :: b) = .error (.unexpectedCloseParen (a ++ ',' :: q))) ∧
      (∀ t, split b = .error (.mismatchedDelimiters t) →
        split (a ++ ',' :: b) = .error (.mismatchedDelimiters (a ++ ',' :: b)))) ∧
    ((∃ ys, split b = .ok ys) ∨ (∃ q, split b = .error (.unexpectedCloseParen q)) ∨
      split b = .error (.mismatchedDelimiters b)) ∧
    ∀ q, split a = .error (.unexpectedCloseParen q) →
      split (a ++ c) = .error (.unexpectedCloseParen q) := by
  refine ⟨?_, ?_, ?_⟩
  · intro xs hxs
    obtain ⟨r, rfl, rfl⟩ := exists_reading_of_split hxs
    simp only [split, pieces_text_comma]
    cases pieces b with
    | ok parts => simp [Except.map, Except.mapError]
    | error fault => cases fault <;> simp [Except.map, Except.mapError, Fault.behind]
  · rcases split_cases b with ⟨r, -, hok⟩ | ⟨q, -, herror⟩ | herror
    · exact Or.inl ⟨_, hok⟩
    · exact Or.inr (Or.inl ⟨q, herror⟩)
    · exact Or.inr (Or.inr herror)
  · intro q hq
    obtain ⟨hclosed, r, hr⟩ := closesUnopened_of_split hq
    exact split_of_closesUnopened ⟨hclosed.trans (List.prefix_append a c), r, hr⟩

/-- The commas of the second list count as they do in it alone. -/
example :
    split "f(x),".toList = .ok ["f(x)".toList, []] ∧
      split "f(x),,g(,)),h".toList = .error (.unexpectedCloseParen "f(x),,g(,))".toList) := by
  decide

end MacroBody.Arguments
