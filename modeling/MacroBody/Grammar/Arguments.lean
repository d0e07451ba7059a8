import MacroBody.Grammar.Error

/-!
# Argument lists

The text between the parentheses of a call is split at its top-level commas by one pass from left
to right. A stack holds what is open: parentheses, a quoted string, and inside it a backslash that
waits for its character. Commas count only while nothing is open, and inside a quoted string only
the closing quote and the backslash mean anything.
-/

namespace MacroBody.Arguments

/-- A construct that is open. -/
inductive Frame
  | paren
  | quote
  | escape
  deriving DecidableEq, Repr

/-- What a character does at the top of the stack: it continues the piece it stands in and leaves
this stack, it ends a piece, or it closes a parenthesis that is not open. -/
inductive Step
  | goOn (frames : List Frame)
  | endPiece
  | closeUnopened
  deriving DecidableEq, Repr

/-- The effect of one character, given what is open, innermost first. -/
def step (frames : List Frame) (c : Char) : Step :=
  match frames with
  | [] =>
    if c = ',' then .endPiece
    else if c = '(' then .goOn [.paren]
    else if c = '"' then .goOn [.quote]
    else if c = ')' then .closeUnopened
    else .goOn []
  | .escape :: outer => .goOn outer
  | .quote :: outer =>
    if c = '"' then .goOn outer
    else if c = '\\' then .goOn (.escape :: .quote :: outer)
    else .goOn (.quote :: outer)
  | .paren :: outer =>
    if c = ')' then .goOn outer
    else if c = '(' then .goOn (.paren :: .paren :: outer)
    else if c = '"' then .goOn (.quote :: .paren :: outer)
    else .goOn (.paren :: outer)

/-- How a pass over an argument list can fail. -/
inductive Fault
  /-- A parenthesis was closed that was not open; the characters up to it, last first. -/
  | closeUnopened (seen : Text)
  /-- Something was still open at the end. -/
  | leftOpen
  deriving DecidableEq, Repr

/-- The pieces of the text between its top-level commas, untrimmed. `frames` is what is open,
`piece` the piece so far and `seen` all characters so far, both last character first. -/
def piecesFrom (frames : List Frame) (piece seen : Text) : Text → Except Fault (List Text)
  | [] => if frames.isEmpty then .ok [piece.reverse] else .error .leftOpen
  | c :: rest =>
    match step frames c with
    | .goOn frames => piecesFrom frames (c :: piece) (c :: seen) rest
    | .endPiece => (piecesFrom [] [] (c :: seen) rest).map (piece.reverse :: ·)
    | .closeUnopened => .error (.closeUnopened (c :: seen))

/-- The pieces of the text between its top-level commas, untrimmed. -/
def pieces (args : Text) : Except Fault (List Text) :=
  piecesFrom [] [] [] args

/-- The arguments in the text between the parentheses of a call. There is at least one, and an
argument may be empty. -/
def split (args : Text) : Except GrammarError (List Text) :=
  match pieces args with
  | .ok parts => .ok (parts.map Text.trim)
  | .error (.closeUnopened seen) => .error (.unexpectedCloseParen seen.reverse)
  | .error .leftOpen => .error (.mismatchedDelimiters args)

end MacroBody.Arguments
