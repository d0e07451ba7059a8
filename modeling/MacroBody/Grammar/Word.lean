import MacroBody.Grammar.Verdict

/-!
# Word lines

A word line holds one name, a letter followed by word characters, and blanks around it. The grammar
has no error: whatever is not a single name is left to other grammars.
-/

namespace MacroBody

/-- A line that holds one name. -/
structure Word where
  name : Text
  deriving DecidableEq, Repr

namespace Word

/-- Reads a word line. -/
def read (line : Text) : Verdict Word :=
  if line.trim.isName then .accepted ⟨line.trim⟩ else .noMatch

end Word

end MacroBody
