import MacroBody.Proofs.Arguments.Balanced

/-!
# Splitting with a counter

The stack of the splitter can hold any frames, but a pass builds few stacks: some open parentheses,
and on top of them at most a quoted string, and on top of that at most a backslash.  A number and one
of three modes say as much (`Counter`), and a machine that keeps only these splits every text as the
stack machine does (`Counter.split_eq`).

The key local fact is `step_frames`: on a stack of this shape the stack machine does with a character
what the counter does.
-/

namespace MacroBody.Arguments

/-- Where a character stands: outside quoted strings, in one, or right behind a backslash in one. -/
inductive Mode
  | plain
  | quote
  | escape
  deriving DecidableEq, Repr

/-- The frames above the open parentheses, outermost first. -/
def Mode.frames : Mode → List Frame
  | plain => []
  | quote => [.quote]
  | escape => [.quote, .escape]

/-- What is open, in numbers. -/
structure Counter where
  /-- The number of open parentheses. -/
  depth : Nat
  mode : Mode
  deriving DecidableEq, Repr

/-- What a character does to a counter, as `Step` says it of a stack. -/
inductive Move
  | goOn (k : Counter)
  | endPiece
  | closeUnopened
  deriving DecidableEq, Repr

namespace Counter

/-- The counter at the start of a list. -/
def zero : Counter := ⟨0, .plain⟩

/-- The stack that a counter stands for, innermost frame first. -/
def frames (k : Counter) : List Frame :=
  k.mode.frames.reverse ++ List.replicate k.depth .paren

/-- The effect of one character. -/
def next (k : Counter) (c : Char) : Move :=
  match k.mode with
  | .escape => .goOn { k with mode := .quote }
  | .quote =>
    if c = '"' then .goOn { k with mode := .plain }
    else if c = '\\' then .goOn { k with mode := .escape }
    else .goOn k
  | .plain =>
    if c = '(' then .goOn { k with depth := k.depth + 1 }
    else if c = '"' then .goOn { k with mode := .quote }
    else if c = ')' then
      if k.depth = 0 then .closeUnopened else .goOn { k with depth := k.depth - 1 }
    else if c = ',' ∧ k.depth = 0 then .endPiece
    else .goOn k

/-- The pieces of the text between its top-level commas, as `Arguments.piecesFrom` finds them, from a
counter on. -/
def piecesFrom (k : Counter) (piece seen : Text) : Text → Except Fault (List Text)
  | [] => if k = zero then .ok [piece.reverse] else .error .leftOpen
  | c :: rest =>
    match k.next c with
    | .goOn k => k.piecesFrom (c :: piece) (c :: seen) rest
    | .endPiece => (zero.piecesFrom [] (c :: seen) rest).map (piece.reverse :: ·)
    | .closeUnopened => .error (.closeUnopened (c :: seen))

/-- The arguments in the text between the parentheses of a call, found with a counter. -/
def split (args : Text) : Except GrammarError (List Text) :=
  match zero.piecesFrom [] [] args with
  | .ok parts => .ok (parts.map Text.trim)
  | .error (.closeUnopened seen) => .error (.unexpectedCloseParen seen.reverse)
  | .error .leftOpen => .error (.mismatchedDelimiters args)

end Counter

/-- What a move is for the stack. -/
def Move.toStep : Move → Step
  | goOn k => .goOn k.frames
  | endPiece => .endPiece
  | closeUnopened => .closeUnopened

variable {k : Counter} {piece seen : Text}

/-- A stack is empty if nothing is counted. -/
theorem Counter.isEmpty_frames (k : Counter) : k.frames.isEmpty = decide (k = zero) := by
  obtain ⟨depth, mode⟩ := k
  cases mode <;> cases depth <;> simp [frames, Mode.frames, zero, List.replicate_succ]

/-- The only stack at which a piece ends is the empty one, and the character is a comma. -/
theorem step_eq_endPiece {frames : List Frame} {c : Char} (h : step frames c = .endPiece) :
    frames = [] ∧ c = ',' := by
  cases frames with
  | nil =>
      by_cases hcomma : c = ','
      · exact ⟨rfl, hcomma⟩
      · grind [step]
  | cons frame outer => cases frame <;> grind [step]

/-- Read from the bottom, a stack that a counter stands for has its parentheses first. -/
theorem Counter.reverse_frames (k : Counter) :
    k.frames.reverse = List.replicate k.depth .paren ++ k.mode.frames := by
  simp [frames]

/-- **The stack machine does what the counter does.** -/
theorem step_frames (k : Counter) (c : Char) : step k.frames c = (k.next c).toStep := by
  obtain ⟨depth, mode⟩ := k
  cases mode with
  | escape => rfl
  | quote =>
      by_cases hquote : c = '"'
      · simp [Counter.next, Counter.frames, Mode.frames, Move.toStep, hquote]
      by_cases hescape : c = '\\'
      · simp [Counter.next, Counter.frames, Mode.frames, Move.toStep, hescape]
      · simp [Counter.next, Counter.frames, Mode.frames, Move.toStep, hquote, hescape,
          step_quote_plain hquote hescape]
  | plain =>
      cases depth with
      | zero =>
          simp only [Counter.next, Counter.frames, Mode.frames, step, List.reverse_nil,
            List.nil_append, List.replicate_zero]
          grind [Move.toStep, Counter.frames, Mode.frames]
      | succ depth =>
          simp only [Counter.next, Counter.frames, Mode.frames, step, List.reverse_nil,
            List.nil_append, List.replicate_succ]
          grind [Move.toStep, Counter.frames, Mode.frames]

/-- From a counter on, the pieces are those from its stack on. -/
theorem Counter.piecesFrom_eq (k : Counter) (t : Text) :
    k.piecesFrom piece seen t = Arguments.piecesFrom k.frames piece seen t := by
  induction t generalizing k piece seen with
  | nil =>
      rw [piecesFrom, Arguments.piecesFrom, isEmpty_frames]
      simp
  | cons c rest ih =>
      rw [piecesFrom, Arguments.piecesFrom, step_frames]
      cases k.next c with
      | goOn k' => exact ih k'
      | endPiece =>
          simp only [Move.toStep]
          rw [ih zero]
          rfl
      | closeUnopened => rfl

/-- **A counter is enough.**  It finds the same arguments and the same faults. -/
theorem Counter.split_eq (args : Text) : split args = Arguments.split args := by
  rw [split, Arguments.split, pieces, piecesFrom_eq]
  rfl

end MacroBody.Arguments
