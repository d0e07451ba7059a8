import MacroBody.Proofs.Arguments.Counter
import MacroBody.Proofs.Text.Bytes

/-!
# Splitting by positions

The splitter need not carry the characters of a piece.  It is enough to remember, in bytes, where the
piece begins and how far the pass has come; the piece is taken out of the list when it ends.  This file
follows such a pass (`Pass.next`) from one character to the next.

Taking a piece out can fail, because a position may fall inside a character or behind another one.
Here it never does (`splitByPosition_eq`): the piece begins at the start of the list or right behind a
comma at the top, and the pass is at the start of a character or at the end.

The key local fact is `Pass.Sound.next`.  What is known of a pass after some characters says what the
rest of the pass does with any text that may follow.
-/

namespace MacroBody.Arguments

open Text
open String (utf8Len)

/-- What a pass remembers between two characters.  Positions are in bytes. -/
structure Pass where
  /-- What is open, innermost first. -/
  frames : List Frame
  /-- Where the piece begins. -/
  boundary : Nat
  /-- How far the pass has come. -/
  position : Nat
  /-- The arguments so far. -/
  arguments : List Text
  deriving DecidableEq, Repr

/-- How a pass can end without arguments. -/
inductive Halt
  /-- A part of the list was asked for that it does not have. -/
  | noSlice
  | rejected (cause : GrammarError)
  deriving DecidableEq, Repr

/-- The part of the list from one position to another. -/
def part (args : Text) (start stop : Nat) : Except Halt Text :=
  match args.slice? start stop with
  | some t => .ok t
  | none => .error .noSlice

namespace Pass

/-- The pass before the first character. -/
def start : Pass := ⟨[], 0, 0, []⟩

/-- The pass behind the next character. -/
def next (args : Text) (s : Pass) (c : Char) : Except Halt Pass :=
  let after := s.position + c.utf8Size
  match step s.frames c with
  | .goOn frames => .ok { s with frames := frames, position := after }
  | .endPiece => do
    let piece ← part args s.boundary s.position
    .ok { s with boundary := after, position := after, arguments := s.arguments ++ [piece.trim] }
  | .closeUnopened => do
    let upTo ← part args 0 after
    .error (.rejected (.unexpectedCloseParen upTo))

/-- The pass behind the characters of a start of the list. -/
def after (args start : Text) : Except Halt Pass :=
  start.foldlM (next args) Pass.start

/-- The arguments at the end of the list. -/
def finish (args : Text) (s : Pass) : Except Halt (List Text) :=
  if s.frames.isEmpty then do
    let piece ← part args s.boundary (utf8Len args)
    .ok (s.arguments ++ [piece.trim])
  else .error (.rejected (.mismatchedDelimiters args))

end Pass

/-- The arguments in the text between the parentheses of a call, found by positions. -/
def splitByPosition (args : Text) : Except Halt (List Text) := do
  let s ← Pass.after args args
  s.finish args

variable {args before rest : Text} {s s' : Pass} {c : Char}

/-- A part between two starts of the list is there. -/
theorem part_append (front piece rest : Text) :
    part (front ++ piece ++ rest) (utf8Len front) (utf8Len (front ++ piece)) = .ok piece := by
  rw [part, slice?_eq_some.2 ⟨front, rest, rfl, rfl, rfl⟩]

namespace Pass

/-- What is known of a pass behind the characters `before`.  They are the text in front of the piece
and the piece so far, and whatever follows them is split from here on as the whole list is. -/
structure Sound (before : Text) (s : Pass) : Prop where
  counted : ∃ k : Counter, s.frames = k.frames
  position : s.position = utf8Len before
  pieces : ∃ front piece parts, before = front ++ piece ∧ s.boundary = utf8Len front ∧
    s.arguments = parts.map trim ∧
    (front = [] ∨ ∃ u, front = u ++ [','] ∧ Balanced u) ∧
    ∀ rest, Arguments.pieces (before ++ rest) =
      (piecesFrom s.frames piece.reverse before.reverse rest).map (parts ++ ·)

theorem sound_start : Sound [] start where
  counted := ⟨.zero, rfl⟩
  position := String.utf8Len_nil.symm
  pieces := by
    refine ⟨[], [], [], rfl, String.utf8Len_nil.symm, rfl, Or.inl rfl, fun rest => ?_⟩
    change piecesFrom [] [] [] rest = (piecesFrom [] [] [] rest).map fun parts => parts
    cases piecesFrom [] [] [] rest <;> rfl

/-- Where nothing is open, the characters so far are balanced. -/
theorem Sound.balanced (hs : Sound before s) (hempty : s.frames = []) : Balanced before := by
  obtain ⟨front, piece, parts, -, -, -, -, hpieces⟩ := hs.pieces
  have hend := hpieces []
  rw [hempty, List.append_nil] at hend
  have hsplit : split before = .ok ((parts ++ [piece]).map trim) := by
    rw [split, hend]
    simp [piecesFrom, Except.map]
  obtain ⟨r, hr, -⟩ := exists_reading_of_split hsplit
  exact ⟨r, hr⟩

/-- A character that ends no piece is added to it. -/
theorem Sound.goOn {frames : List Frame} (hs : Sound before s)
    (hstep : step s.frames c = .goOn frames) :
    Sound (before ++ [c]) { s with frames := frames, position := s.position + c.utf8Size } where
  counted := by
    obtain ⟨k, hk⟩ := hs.counted
    rw [hk, step_frames] at hstep
    cases hmove : k.next c with
    | goOn k' =>
        rw [hmove] at hstep
        cases hstep
        exact ⟨k', rfl⟩
    | endPiece => rw [hmove] at hstep; cases hstep
    | closeUnopened => rw [hmove] at hstep; cases hstep
  position := by simp [hs.position]
  pieces := by
    obtain ⟨front, piece, parts, rfl, hboundary, harguments, hfront, hpieces⟩ := hs.pieces
    refine ⟨front, piece ++ [c], parts, List.append_assoc _ _ _, hboundary, harguments, hfront,
      fun rest => ?_⟩
    rw [List.append_assoc, List.singleton_append, hpieces, piecesFrom_goOn hstep]
    simp

/-- A comma at the top ends the piece, and the next one begins behind it. -/
theorem Sound.endPiece (hs : Sound before s) (hstep : step s.frames c = .endPiece)
    (rest : Text) :
    ∃ piece, part (before ++ c :: rest) s.boundary s.position = .ok piece ∧
      Sound (before ++ [c])
        { s with
          boundary := s.position + c.utf8Size, position := s.position + c.utf8Size,
          arguments := s.arguments ++ [piece.trim] } := by
  obtain ⟨hempty, rfl⟩ := step_eq_endPiece hstep
  have hbalanced := hs.balanced hempty
  obtain ⟨front, piece, parts, rfl, hboundary, harguments, -, hpieces⟩ := hs.pieces
  have hafter : s.position + ','.utf8Size = utf8Len (front ++ piece ++ [',']) := by
    simp [hs.position, Nat.add_assoc]
  refine ⟨piece, ?_, hs.counted, hafter, ?_⟩
  · rw [hboundary, hs.position]
    exact part_append front piece (',' :: rest)
  · refine ⟨front ++ piece ++ [','], [], parts ++ [piece], (List.append_nil _).symm, hafter,
      by simp [harguments], Or.inr ⟨_, rfl, hbalanced⟩, fun rest => ?_⟩
    rw [List.append_assoc, List.singleton_append, hpieces, hempty, piecesFrom]
    change ((piecesFrom [] [] (',' :: (front ++ piece).reverse) rest).map _).map _ = _
    cases hrest : piecesFrom [] [] (',' :: (front ++ piece).reverse) rest <;>
      simp_all [Except.map]

/-- A parenthesis that is not open ends the pass, and the list is rejected for the text up to it. -/
theorem Sound.closeUnopened (hs : Sound before s) (hstep : step s.frames c = .closeUnopened)
    (rest : Text) :
    part (before ++ c :: rest) 0 (s.position + c.utf8Size) = .ok (before ++ [c]) ∧
      split (before ++ c :: rest) = .error (.unexpectedCloseParen (before ++ [c])) := by
  constructor
  · have hpart := part_append [] (before ++ [c]) rest
    simpa [hs.position] using hpart
  · obtain ⟨front, piece, parts, -, -, -, -, hpieces⟩ := hs.pieces
    rw [split, hpieces, piecesFrom, hstep]
    simp [Except.map]

/-- The pass ends as the list is split. -/
theorem Sound.finish_eq (hs : Sound args s) :
    s.finish args = (split args).mapError .rejected := by
  obtain ⟨front, piece, parts, hargs, hboundary, harguments, -, hpieces⟩ := hs.pieces
  have hend := hpieces []
  rw [List.append_nil] at hend
  rw [split, hend, finish]
  cases hframes : s.frames with
  | nil =>
      have hpart : part args s.boundary (utf8Len args) = .ok piece := by
        have hlast := part_append front piece []
        rwa [List.append_nil, ← hargs, ← hboundary] at hlast
      simp [hpart, harguments, piecesFrom, bind, Except.bind, Except.map, Except.mapError]
  | cons frame outer => simp [piecesFrom, Except.map, Except.mapError]

/-- **What a character can do to a pass.**  It leads to a pass of which as much is known, or it is the
parenthesis for which the list is rejected. -/
theorem Sound.next_cases (hs : Sound before s) (hargs : args = before ++ c :: rest) :
    (∃ s', next args s c = .ok s' ∧ Sound (before ++ [c]) s') ∨
      ∃ cause, next args s c = .error (.rejected cause) ∧ split args = .error cause := by
  subst hargs
  cases hstep : step s.frames c with
  | goOn frames => exact Or.inl ⟨_, by simp only [next, hstep], hs.goOn hstep⟩
  | endPiece =>
      obtain ⟨piece, hpiece, hsound⟩ := hs.endPiece hstep rest
      refine Or.inl ⟨_, ?_, hsound⟩
      simp only [next, hstep, hpiece]
      rfl
  | closeUnopened =>
      obtain ⟨hupTo, hsplit⟩ := hs.closeUnopened hstep rest
      refine Or.inr ⟨_, ?_, hsplit⟩
      simp only [next, hstep, hupTo]
      rfl

/-- **From any point on the pass ends as the list is split.** -/
theorem Sound.foldlM_finish (hs : Sound before s) (hargs : args = before ++ rest) :
    (rest.foldlM (next args) s >>= finish args) = (split args).mapError .rejected := by
  induction rest generalizing before s with
  | nil =>
      obtain rfl : args = before := by simpa using hargs
      exact hs.finish_eq
  | cons c rest ih =>
      rw [List.foldlM_cons]
      rcases hs.next_cases hargs with ⟨s', hnext, hsound⟩ | ⟨cause, hnext, hsplit⟩
      · rw [hnext]
        exact ih hsound (by simp [hargs])
      · rw [hnext, hsplit]
        rfl

/-- What is known of a pass stays known behind further characters of the list. -/
theorem Sound.foldlM {more : Text} (hs : Sound before s) (hargs : args = before ++ more ++ rest)
    (hmore : more.foldlM (next args) s = .ok s') : Sound (before ++ more) s' := by
  induction more generalizing before s with
  | nil =>
      cases hmore
      rwa [List.append_nil]
  | cons c more ih =>
      rw [List.foldlM_cons] at hmore
      have hsplit : args = before ++ c :: (more ++ rest) := by simp [hargs]
      rcases hs.next_cases hsplit with ⟨mid, hnext, hsound⟩ | ⟨cause, hnext, -⟩
      · rw [hnext] at hmore
        have hlater := ih hsound (by simp [hargs]) hmore
        simpa using hlater
      · rw [hnext] at hmore
        cases hmore

/-- The piece begins at a position at which the list can be cut, and not behind the pass. -/
theorem Sound.boundary (hs : Sound before s) (rest : Text) :
    s.boundary ≤ s.position ∧ IsBoundary (before ++ rest) s.boundary ∧
      IsBoundary (before ++ rest) s.position := by
  obtain ⟨front, piece, parts, rfl, hboundary, -⟩ := hs.pieces
  rw [hboundary, hs.position]
  refine ⟨by simp, ?_, isBoundary_append _ rest⟩
  rw [List.append_assoc]
  exact isBoundary_append front (piece ++ rest)

/-- The piece begins at the start of the list or right behind a comma at the top. -/
theorem Sound.boundary_cases (hs : Sound before s) :
    s.boundary = 0 ∨ ∃ u v, before = u ++ ',' :: v ∧ Balanced u ∧
      s.boundary = utf8Len (u ++ [',']) := by
  obtain ⟨front, piece, parts, rfl, hboundary, -, rfl | ⟨u, rfl, hu⟩, -⟩ := hs.pieces
  · exact Or.inl (hboundary.trans String.utf8Len_nil)
  · exact Or.inr ⟨u, piece, by simp, hu, hboundary⟩

end Pass

/-- **Positions lead to the same arguments and the same causes**, and every part is there. -/
theorem splitByPosition_eq (args : Text) :
    splitByPosition args = (split args).mapError .rejected :=
  Pass.sound_start.foldlM_finish rfl

/-- **A pass opens parentheses, then at most a quoted string, then at most a backslash.**  So a counter
and a mode find the same arguments and the same faults as the stack.  A pass by positions finds them
too, and each part that it asks for is there.  Behind every start of the list that it gets to, it has
the stack and the piece with which the list is split from there on; the piece begins at 0 or right
behind a comma at the top, no further than the pass has come, and the list can be cut at both
positions. -/
theorem split_by_counting (args : Text) :
    Counter.split args = split args ∧
    splitByPosition args = (split args).mapError .rejected ∧
    ∀ before rest s, args = before ++ rest → Pass.after args before = .ok s →
      (∃ depth mode, s.frames.reverse = List.replicate depth .paren ++ Mode.frames mode) ∧
      (∃ front piece parts, before = front ++ piece ∧ s.boundary = utf8Len front ∧
        s.arguments = parts.map trim ∧ ∀ rest', pieces (before ++ rest') =
          (piecesFrom s.frames piece.reverse before.reverse rest').map (parts ++ ·)) ∧
      (s.boundary = 0 ∨ ∃ u v, before = u ++ ',' :: v ∧ Balanced u ∧
        s.boundary = utf8Len (u ++ [','])) ∧
      s.position = utf8Len before ∧ s.boundary ≤ s.position ∧
      IsBoundary args s.boundary ∧ IsBoundary args s.position := by
  refine ⟨Counter.split_eq args, splitByPosition_eq args, ?_⟩
  intro before rest s hargs hafter
  have hs : Pass.Sound before s := Pass.sound_start.foldlM hargs hafter
  obtain ⟨k, hk⟩ := hs.counted
  obtain ⟨front, piece, parts, hbefore, hboundary, harguments, -, hpieces⟩ := hs.pieces
  subst hargs
  refine ⟨⟨k.depth, k.mode, ?_⟩, ⟨front, piece, parts, hbefore, hboundary, harguments, hpieces⟩,
    hs.boundary_cases, hs.position, hs.boundary rest⟩
  rw [hk, k.reverse_frames]

/-- Behind a backslash in a quoted string in a group, in the second piece of a list whose first piece
takes more bytes than it has characters. -/
theorem split_by_counting_escaped :
    Pass.after "é,g(\"\\\"),h".toList "é,g(\"\\".toList =
        .ok ⟨[.escape, .quote, .paren], 3, 7, ["é".toList]⟩ ∧
      IsBoundary "é,g(\"\\\"),h".toList 3 ∧ IsBoundary "é,g(\"\\\"),h".toList 7 := by
  have hafter : Pass.after "é,g(\"\\\"),h".toList "é,g(\"\\".toList =
      .ok ⟨[.escape, .quote, .paren], 3, 7, ["é".toList]⟩ := by
    decide
  have hpass := (split_by_counting "é,g(\"\\\"),h".toList).2.2 _ "\"),h".toList _ rfl hafter
  exact ⟨hafter, hpass.2.2.2.2.2⟩

end MacroBody.Arguments
