import MacroBody.Grammar.Verdict
import MacroBody.Pattern.Layout
import MacroBody.Pattern.Match
import MacroBody.Pattern.Meaning
import MacroBody.Pattern.Reader

/-!
# Pattern literal lines

A pattern literal line is a pattern between double quotes. A line whose first and last characters
are the quotes is claimed, and what stands between them must be a pattern.

Whether it is one is for a compiler of patterns to say. Of a compiler nothing is needed but the report
that it writes on a text it refuses (`PatternCompiler`). A report may take many lines, of which the
last one sums up the others, so this line is the reason that is given.

Patterns are compiled by `Pattern.compile`: `Pattern.read` reads a pattern and gives it its meaning,
and its size is checked. What is accepted can be matched against any text.
-/

namespace MacroBody

/-- What decides whether a text is a pattern. -/
class PatternCompiler where
  /-- The report on a text that is refused. A pattern has none. -/
  report? : Text → Option Text

/-- The last line of a report that is not blank, trimmed. A report without such a line is its own
summary. -/
def Text.summary (report : Text) : Text :=
  ((report.lines.reverse.map trim).find? (!·.isEmpty)).getD report

namespace Pattern

/-- The meaning of a pattern of any size, or why the text is no pattern. -/
def read (t : Text) : Except Fault Expr := do
  let tree ← Tree.read t
  let (e, _) ← tree.expr .initial
  .ok e

/-- The meaning of a pattern, or why the text is no pattern. -/
def compile (t : Text) : Except Fault Expr := do
  let e ← read t
  if e.isTooLarge then .error .tooLarge else .ok e

/-- The compiler that is used where no other one is at hand. -/
instance : PatternCompiler where
  report? pattern :=
    match compile pattern with
    | .ok _ => none
    | .error fault => some (fault.report pattern)

end Pattern

/-- A pattern, without its quotes. -/
structure PatternLiteral where
  pattern : Text
  deriving DecidableEq, Repr

namespace PatternLiteral

/-- Reads a pattern literal line. -/
def read [PatternCompiler] (line : Text) : Verdict PatternLiteral :=
  match (line.trim.enclosed? '"' '"').filter Text.isOneLine with
  | none => .noMatch
  | some pattern =>
    match PatternCompiler.report? pattern with
    | none => .accepted ⟨pattern⟩
    | some report => .rejected (.invalidPattern pattern report.summary)

/-- Whether the pattern matches somewhere in the subject. -/
def isMatch (literal : PatternLiteral) (subject : Text) : Bool :=
  match Pattern.read literal.pattern with
  | .ok e => e.isMatch subject
  | .error _ => false

end PatternLiteral

end MacroBody
