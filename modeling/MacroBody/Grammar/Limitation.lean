import MacroBody.Grammar.Verdict
import MacroBody.Vocabulary

/-!
# Limitation lines

A limitation line is a keyword, a name, a colon or an equals sign, and a value. A line that starts
with a keyword and a blank and has a separator later on is claimed, so a line that merely starts
with such a word is left to other grammars.
-/

namespace MacroBody

/-- A change to one named limit. -/
structure Limitation where
  keyword : Keyword
  name : Text
  val : Text
  deriving DecidableEq, Repr

namespace Limitation

/-- Whether `c` separates the name of a limit from its value. -/
def isSeparator (c : Char) : Bool :=
  c = ':' || c = '='

/-- The keyword at the start of the line, and what follows it and the blanks after it. -/
def keyword? (line : Text) : Option (Keyword × Text) :=
  Keyword.all.findSome? fun k => (line.trimStart.afterWord? k.name).map (k, ·)

/-- The name and the value on the two sides of the first separator. -/
def assignment? (text : Text) : Option (Text × Text) :=
  match text.cut? isSeparator with
  | some (name, val) =>
    if name.trim.isToken && val.trim.isToken then some (name.trim, val.trim) else none
  | none => none

/-- Reads a limitation line. -/
def read (line : Text) : Verdict Limitation :=
  match keyword? line with
  | none => .noMatch
  | some (keyword, rest) =>
    if (rest.takeWhile (· ≠ '\n')).any isSeparator then
      match assignment? rest with
      | some (name, val) => .accepted ⟨keyword, name, val⟩
      | none => .rejected (.badLimitation line.trim)
    else .noMatch

end Limitation

end MacroBody
