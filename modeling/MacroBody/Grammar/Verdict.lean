import MacroBody.Grammar.Error

/-!
# Verdicts

What one grammar says about one line: it does not apply, it applies and the line is malformed, or
it applies and reads a value. The last two are decisive: they end the search for a grammar.
-/

namespace MacroBody

/-- What a grammar says about a line. -/
inductive Verdict (α : Type)
  | noMatch
  | rejected (cause : GrammarError)
  | accepted (value : α)
  deriving DecidableEq, Repr

/-- A verdict without its content. -/
inductive Outcome
  | noMatch
  | error
  | ok
  deriving DecidableEq, Repr, Inhabited

namespace Outcome

/-- Whether the outcome ends the search for a grammar. -/
def isDecisive : Outcome → Bool
  | noMatch => false
  | error => true
  | ok => true

/-- The outcome as a field of a document. -/
def name : Outcome → Text
  | noMatch => "no_match".toList
  | error => "error".toList
  | ok => "ok".toList

/-- The outcome as a word of a report. -/
def label : Outcome → Text
  | noMatch => "no-match".toList
  | error => "error".toList
  | ok => "ok".toList

end Outcome

namespace Verdict

variable {α β : Type}

/-- The outcome of a verdict. -/
def outcome : Verdict α → Outcome
  | noMatch => .noMatch
  | rejected _ => .error
  | accepted _ => .ok

/-- Whether the verdict ends the search for a grammar. -/
def isDecisive (v : Verdict α) : Bool :=
  v.outcome.isDecisive

/-- The cause of a rejection. -/
def cause? : Verdict α → Option GrammarError
  | rejected e => some e
  | _ => none

/-- The value that was read. -/
def value? : Verdict α → Option α
  | accepted a => some a
  | _ => none

/-- The verdict with its value replaced. -/
def map (f : α → β) : Verdict α → Verdict β
  | noMatch => .noMatch
  | rejected e => .rejected e
  | accepted a => .accepted (f a)

/-- The verdict on a claimed line: a cause rejects it. -/
def ofExcept : Except GrammarError α → Verdict α
  | .error e => .rejected e
  | .ok a => .accepted a

@[simp]
theorem outcome_map (f : α → β) (v : Verdict α) : (v.map f).outcome = v.outcome := by
  cases v <;> rfl

@[simp]
theorem isDecisive_map (f : α → β) (v : Verdict α) : (v.map f).isDecisive = v.isDecisive := by
  cases v <;> rfl

end Verdict

end MacroBody
