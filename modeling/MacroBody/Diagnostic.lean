import MacroBody.Text.Basic

/-!
# Diagnostics

A diagnostic is a message about one line of a body. It is shown with the source around it: the line
itself, marked, and up to two lines before and after it, all with their numbers.
-/

namespace MacroBody

/-- A message about a line, counted from 1. -/
structure Diagnostic where
  line : Nat
  message : Text
  deriving DecidableEq, Repr

namespace Diagnostic

/-- The lines of the source around a line, each with its number and whether it is the one asked
for. Line 0 stands for the first line. -/
def contextRows (source : Text) (line : Nat) : List (Bool × Nat × Text) :=
  let centre := max line 1
  let first := max 1 (centre - 2)
  ((source.lines.drop (first - 1)).take (centre + 3 - first)).zipIdx first |>.map
    fun (text, number) => (number == centre, number, text)

/-- A row of the source context. -/
def contextRow : Bool × Nat × Text → Text
  | (marked, number, text) =>
    (if marked then ">>".toList else "  ".toList) ++ [' '] ++
      Text.padLeft ' ' 3 (Text.decimal number) ++ " | ".toList ++ text ++ ['\n']

/-- The source around a line. -/
def sourceContext (source : Text) (line : Nat) : Text :=
  ((contextRows source line).map contextRow).flatten

/-- The diagnostic with the source around its line. -/
def render (d : Diagnostic) (source : Text) : Text :=
  "error: ".toList ++ d.message ++ ['\n'] ++ sourceContext source d.line

/-- The diagnostic in one line. -/
def display (d : Diagnostic) : Text :=
  "line ".toList ++ Text.decimal d.line ++ ": ".toList ++ d.message

end Diagnostic

end MacroBody
