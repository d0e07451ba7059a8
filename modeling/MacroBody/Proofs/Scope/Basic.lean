import Mathlib.Data.List.Basic
import MacroBody.Scope

/-!
# What a block tag line does to a scope

A line that breaks no rule does one of two things.  An opening line puts its tag on the stack, which
did not hold it; a closing line takes the innermost tag away, which is its own.  These are the two
equations `enter_eq_ok` and `exit_eq_ok`, and later files cite them instead of the functions.

A line that breaks a rule gives back the scope that it was given (`eq_of_apply_error`).  This is a
fact about each place where an error is returned: none of them lies behind a change of the stack.

A sequence of lines is applied with `applyAll`, which stops at the first line that breaks a rule.
-/

namespace MacroBody

/-- The line that opens the block of a tag. -/
abbrev BlockTagLine.opening (tag : BlockTag) : BlockTagLine := ⟨tag, true⟩

/-- The line that closes the block of a tag. -/
abbrev BlockTagLine.closing (tag : BlockTag) : BlockTagLine := ⟨tag, false⟩

namespace Scope

open BlockTagLine

variable {s next : Scope} {tag : BlockTag} {line : BlockTagLine} {e : ScopeError}

/-- Makes calls in order, up to the first that returns an error. -/
def callAll {α : Type} (call : Scope → α → Except ScopeError Unit × Scope) (s : Scope) :
    List α → Except ScopeError Unit × Scope
  | [] => (.ok (), s)
  | a :: rest =>
      match call s a with
      | (.ok _, next) => callAll call next rest
      | (.error e, next) => (.error e, next)

/-- Applies block tag lines in order, up to the first that breaks a rule. -/
def applyAll (s : Scope) (lines : List BlockTagLine) : Except ScopeError Unit × Scope :=
  callAll apply s lines

/-! ## One line -/

/-- A tag can be opened if it is not open and, where nesting is not allowed, nothing else is. -/
theorem enter_eq_ok :
    s.enter tag = (.ok (), next) ↔
      tag ∉ s.stack ∧ (s.allowNesting = true ∨ s.stack = []) ∧
        next = { s with stack := tag :: s.stack } := by
  obtain ⟨stack, allowNesting⟩ := s
  by_cases hopen : tag ∈ stack
  · simp [enter, isOpen, hopen]
  · cases allowNesting with
    | true => simp [enter, isOpen, hopen, eq_comm]
    | false => cases stack <;> simp_all [enter, isOpen, eq_comm]

/-- A tag can be closed if it is the innermost one. -/
theorem exit_eq_ok :
    s.exit tag = (.ok (), next) ↔
      s.stack = tag :: next.stack ∧ next.allowNesting = s.allowNesting := by
  obtain ⟨stack, allowNesting⟩ := s
  obtain ⟨below, allowNesting'⟩ := next
  cases stack with
  | nil => simp [exit]
  | cons top rest =>
      by_cases htop : top = tag
      · simp [exit, htop, eq_comm]
      · simp [exit, htop]

/-- A tag that cannot be opened is not put on the stack. -/
theorem eq_of_enter_error (h : s.enter tag = (.error e, next)) : next = s := by
  unfold enter at h
  split at h
  · exact (congrArg Prod.snd h).symm
  · split at h
    · exact (congrArg Prod.snd h).symm
    · cases h

/-- A tag that cannot be closed leaves the innermost one on the stack. -/
theorem eq_of_exit_error (h : s.exit tag = (.error e, next)) : next = s := by
  unfold exit at h
  split at h
  · exact (congrArg Prod.snd h).symm
  · split at h
    · cases h
    · exact (congrArg Prod.snd h).symm

/-- **What a line can do.**  It opens a tag or closes the innermost one. -/
theorem apply_cases (h : s.apply line = (.ok (), next)) :
    (line = opening line.tag ∧ line.tag ∉ s.stack ∧
        (s.allowNesting = true ∨ s.stack = []) ∧
        next = { s with stack := line.tag :: s.stack }) ∨
      (line = closing line.tag ∧ s.stack = line.tag :: next.stack ∧
        next.allowNesting = s.allowNesting) := by
  obtain ⟨tag, entering⟩ := line
  cases entering with
  | true => exact Or.inl ⟨rfl, enter_eq_ok.1 h⟩
  | false => exact Or.inr ⟨rfl, exit_eq_ok.1 h⟩

/-- **A line that breaks a rule changes nothing.** -/
theorem eq_of_apply_error (h : s.apply line = (.error e, next)) : next = s := by
  obtain ⟨tag, entering⟩ := line
  cases entering with
  | true => exact eq_of_enter_error h
  | false => exact eq_of_exit_error h

/-- No line changes whether nesting is allowed. -/
theorem allowNesting_apply (s : Scope) (line : BlockTagLine) :
    (s.apply line).2.allowNesting = s.allowNesting := by
  cases happly : s.apply line with
  | mk result next =>
      cases result with
      | ok =>
          rcases apply_cases happly with ⟨-, -, -, rfl⟩ | ⟨-, -, hkept⟩
          · rfl
          · exact hkept
      | error e => rw [eq_of_apply_error happly]

/-- Where nothing is open a body can end. -/
theorem unclosed?_of_openTags (h : s.openTags = []) : s.unclosed? = none := by
  simp_all [unclosed?, openTags]

/-- Where a tag is open a body cannot end, and the error lists the open tags. -/
theorem unclosed?_of_ne_nil (h : s.openTags ≠ []) :
    s.unclosed? = some (.unclosed s.openTags) := by
  simp_all [unclosed?, openTags]

/-! ## Lines in order -/

section

variable {α : Type} {call : Scope → α → Except ScopeError Unit × Scope}

theorem callAll_singleton (s : Scope) (a : α) : callAll call s [a] = call s a := by
  rw [callAll]
  cases call s a with
  | mk result next => cases result <;> rfl

/-- Calls one after the other pass if the first ones pass and then the others do. -/
theorem callAll_append_eq_ok {calls calls' : List α} :
    callAll call s (calls ++ calls') = (.ok (), next) ↔
      ∃ mid, callAll call s calls = (.ok (), mid) ∧ callAll call mid calls' = (.ok (), next) := by
  induction calls generalizing s with
  | nil => simp [callAll]
  | cons a calls ih =>
      rw [List.cons_append, callAll, callAll]
      cases call s a with
      | mk result after =>
          cases result with
          | ok => exact ih
          | error e => simp

end

@[simp]
theorem applyAll_nil (s : Scope) : s.applyAll [] = (.ok (), s) := rfl

theorem applyAll_singleton (s : Scope) (line : BlockTagLine) :
    s.applyAll [line] = s.apply line :=
  callAll_singleton s line

/-- Lines one after the other pass if the first ones pass and then the others do. -/
theorem applyAll_append_eq_ok {lines lines' : List BlockTagLine} :
    s.applyAll (lines ++ lines') = (.ok (), next) ↔
      ∃ mid, s.applyAll lines = (.ok (), mid) ∧ mid.applyAll lines' = (.ok (), next) :=
  callAll_append_eq_ok

end Scope

end MacroBody
