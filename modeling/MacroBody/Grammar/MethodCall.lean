import MacroBody.Grammar.Arguments
import MacroBody.Grammar.Verdict

/-!
# Method call lines

A method call line is a name and a parenthesised argument list that reaches to the end of the line.
A line of this outer shape is claimed, and its argument list must then be well formed.
-/

namespace MacroBody

/-- A call with its arguments as written, trimmed. -/
structure MethodCall where
  methodName : Text
  arguments : List Text
  deriving DecidableEq, Repr

namespace MethodCall

/-- The name and the text between the first parenthesis and the last one. -/
def shape? (line : Text) : Option (Text × Text) :=
  let (name, rest) := line.trim.spanWord
  if name.isName then
    ((rest.trimStart.enclosed? '(' ')').filter Text.isOneLine).map (name, ·)
  else none

/-- Reads a method call line. -/
def read (line : Text) : Verdict MethodCall :=
  match shape? line with
  | none => .noMatch
  | some (name, args) => .ofExcept ((Arguments.split args).map (⟨name, ·⟩))

end MethodCall

end MacroBody
