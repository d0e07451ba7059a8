import MacroBody.Grammar.Verdict
import MacroBody.Vocabulary

/-!
# Block tag lines

A block tag line opens a block, `<tag>`, or closes it, `</tag>`. A line whose first and last
characters are the angle brackets is claimed; between them there must be one of the known tags and
no blank.
-/

namespace MacroBody

/-- A line that opens or closes a block. -/
structure BlockTagLine where
  tag : BlockTag
  /-- Whether the line opens the block. -/
  enter : Bool
  deriving DecidableEq, Repr

namespace BlockTagLine

/-- The word between the brackets and whether it stands without a slash. -/
def word? (inner : Text) : Option (Text × Bool) :=
  match inner with
  | '/' :: name => if Text.isToken name then some (name, false) else none
  | name => if Text.isToken name then some (name, true) else none

/-- Reads a block tag line. -/
def read (line : Text) : Verdict BlockTagLine :=
  match (line.trim.enclosed? '<' '>').filter Text.isOneLine with
  | none => .noMatch
  | some inner =>
    match word? inner with
    | none => .rejected (.malformedBlockTag ('<' :: inner ++ ['>']))
    | some (name, enter) =>
      match BlockTag.ofName? name with
      | none => .rejected (.unknownBlockTag name)
      | some tag => .accepted ⟨tag, enter⟩

end BlockTagLine

end MacroBody
