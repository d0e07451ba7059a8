import MacroBody.Grammar.Verdict

/-!
# Property lines

A property line is a name, a colon and a value. Three grammars share this shape. They differ in the
name (one allows spaces, tabs and hyphens inside it, two want a single token) and in the value (one
token, any text, or a comma separated list of tokens). A line with an acceptable name and a colon
after it is claimed; after that only the value can be wrong.
-/

namespace MacroBody

/-- A name with one value. -/
structure Property where
  name : Text
  val : Text
  deriving DecidableEq, Repr

/-- A name with a list of values, in the order written and with repetitions kept. -/
structure PropertyList where
  name : Text
  vals : List Text
  deriving DecidableEq, Repr

namespace Property

/-- Whether `c` may stand inside a name of several words. -/
def isNameChar (c : Char) : Bool :=
  isWord c || c = ' ' || c = '\t' || c = '-'

/-- What follows a colon, before which blanks may stand, up to the end of a text of one line. -/
def colon? (t : Text) : Option Text :=
  match t.trimStart with
  | ':' :: rest => if Text.isOneLine rest then some rest else none
  | _ => none

/-- The shortest name of one or more words with a colon after it, and the rest of the line. -/
def phraseHead? (line : Text) : Option (Text × Text) :=
  match line.trimStart with
  | [] => none
  | c :: later =>
    if isWord c then
      (Text.shortest? isNameChar colon? later).map fun (more, rest) => (c :: more, rest)
    else none

/-- The longest token at the start of the line, if a colon comes after it, and the rest. -/
def tokenHead? (line : Text) : Option (Text × Text) :=
  let (name, after) := line.trimStart.spanWord
  if name.isEmpty then none else (colon? after).map (name, ·)

/-- Reads a name of one or more words with a single token as its value. -/
def read (line : Text) : Verdict Property :=
  match phraseHead? line with
  | none => .noMatch
  | some (name, rest) =>
    if rest.trim.isToken then .accepted ⟨name, rest.trim⟩
    else .rejected (.expectedValue rest.trim)

/-- Reads a one-token name with any text as its value. -/
def readAnyValue (line : Text) : Verdict Property :=
  match tokenHead? line with
  | none => .noMatch
  | some (name, rest) => .accepted ⟨name, rest.trim⟩

end Property

namespace PropertyList

/-- Reads a one-token name with a list of tokens as its values. -/
def read (line : Text) : Verdict PropertyList :=
  match Property.tokenHead? line with
  | none => .noMatch
  | some (name, rest) =>
    match rest.tokens? with
    | some vals => .accepted ⟨name, vals⟩
    | none => .rejected (.expectedValueList rest.trim)

end PropertyList

end MacroBody
