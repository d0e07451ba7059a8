import Mathlib.Data.List.Nodup
import Mathlib.Data.List.Perm.Subperm
import MacroBody.Proofs.Scope.Basic

/-!
# Any sequence of calls on a scope

A caller goes on after a call that breaks a rule, with the scope that the call has left.  This file
says what can be relied on after any sequence of calls, whether they succeeded or not.

A call either succeeds, and opens a tag that was not open or closes one that was, or it fails and
leaves the scope as it was (`attempt_cases`).  From this one step follow the invariant `Sound`, that
no tag is open twice, and the account of each tag: it was opened as often as it was closed, and once
more if it is open now (`count_run`).  What a sequence does is what its successful calls do
(`attemptAll_accepted`).
-/

namespace MacroBody

/-- A call that changes a scope. -/
inductive Scope.Call
  | enter (tag : BlockTag)
  | exit (tag : BlockTag)
  | apply (line : BlockTagLine)
  deriving DecidableEq, Repr

namespace Scope

open BlockTagLine

/-- The block tag line that does what the call does. -/
def Call.line : Call → BlockTagLine
  | enter tag => opening tag
  | exit tag => closing tag
  | apply line => line

/-- What a call returns, and the scope after it. -/
def attempt (s : Scope) : Call → Except ScopeError Unit × Scope
  | .enter tag => s.enter tag
  | .exit tag => s.exit tag
  | .apply line => s.apply line

/-- The scope after a call, which may have failed. -/
def perform (s : Scope) (call : Call) : Scope :=
  (s.attempt call).2

/-- The scope after a sequence of calls, those that fail included. -/
def run (s : Scope) (calls : List Call) : Scope :=
  calls.foldl perform s

/-- The calls of a sequence that succeed where they stand. -/
def accepted (s : Scope) : List Call → List Call
  | [] => []
  | call :: calls =>
      match s.attempt call with
      | (.ok _, next) => call :: next.accepted calls
      | (.error _, next) => next.accepted calls

/-- Makes calls in order, up to the first that fails. -/
def attemptAll (s : Scope) (calls : List Call) : Except ScopeError Unit × Scope :=
  callAll attempt s calls

/-- How often a tag is entered by the calls. -/
def entries (tag : BlockTag) (calls : List Call) : Nat :=
  (calls.map Call.line).count (opening tag)

/-- How often a tag is exited by the calls. -/
def exits (tag : BlockTag) (calls : List Call) : Nat :=
  (calls.map Call.line).count (closing tag)

/-- No tag is open twice and, where nesting is not allowed, at most one is open. -/
structure Sound (s : Scope) : Prop where
  nodup : s.stack.Nodup
  flat : s.allowNesting = false → s.stack.length ≤ 1

variable {s next : Scope} {call : Call} {calls : List Call} {tag : BlockTag}

/-! ## One call -/

/-- Entering and leaving are what applying an opening or a closing line does. -/
theorem attempt_eq_apply (s : Scope) (call : Call) : s.attempt call = s.apply call.line := by
  cases call <;> rfl

/-- **What a call can do.**  It succeeds, or it returns an error and leaves the scope as it was. -/
theorem attempt_cases (s : Scope) (call : Call) :
    (∃ next, s.attempt call = (.ok (), next)) ∨ ∃ e, s.attempt call = (.error e, s) := by
  cases hcall : s.attempt call with
  | mk result next =>
      cases result with
      | ok => exact Or.inl ⟨next, rfl⟩
      | error e =>
          rw [attempt_eq_apply] at hcall
          rw [eq_of_apply_error hcall]
          exact Or.inr ⟨e, rfl⟩

/-- A call that succeeds keeps the scope sound. -/
theorem Sound.attempt (hs : s.Sound) (h : s.attempt call = (.ok (), next)) : next.Sound := by
  rw [attempt_eq_apply] at h
  rcases apply_cases h with ⟨-, hnew, hnesting, rfl⟩ | ⟨-, hstack, hkept⟩
  · refine ⟨List.nodup_cons.2 ⟨hnew, hs.nodup⟩, ?_⟩
    intro hflat
    have hempty : s.stack = [] := by
      rcases hnesting with hallowed | hempty
      · rw [hallowed] at hflat
        cases hflat
      · exact hempty
    simp [hempty]
  · have hnodup := hs.nodup
    have hlength := hs.flat
    rw [hstack] at hnodup hlength
    refine ⟨(List.nodup_cons.1 hnodup).2, ?_⟩
    intro hflat
    have hle := hlength (hkept ▸ hflat)
    simp only [List.length_cons] at hle
    omega

/-- Every call keeps the scope sound. -/
theorem Sound.perform (hs : s.Sound) (call : Call) : (s.perform call).Sound := by
  rcases attempt_cases s call with ⟨next, hok⟩ | ⟨e, herror⟩
  · rw [Scope.perform, hok]
    exact hs.attempt hok
  · rw [Scope.perform, herror]
    exact hs

theorem entries_cons (tag : BlockTag) (call : Call) (calls : List Call) :
    entries tag (call :: calls) = entries tag calls + if call.line = opening tag then 1 else 0 := by
  simp [entries, List.count_cons]

theorem exits_cons (tag : BlockTag) (call : Call) (calls : List Call) :
    exits tag (call :: calls) = exits tag calls + if call.line = closing tag then 1 else 0 := by
  simp [exits, List.count_cons]

/-- A call that succeeds goes into the account of its tag. -/
theorem count_attempt (h : s.attempt call = (.ok (), next)) (tag : BlockTag) :
    s.stack.count tag + (if call.line = opening tag then 1 else 0) =
      next.stack.count tag + (if call.line = closing tag then 1 else 0) := by
  rw [attempt_eq_apply] at h
  generalize call.line = line at h
  obtain ⟨other, entering⟩ := line
  rcases apply_cases h with ⟨hline, -, -, rfl⟩ | ⟨hline, hstack, -⟩
  · obtain rfl : entering = true := congrArg BlockTagLine.enter hline
    simp [List.count_cons]
  · obtain rfl : entering = false := congrArg BlockTagLine.enter hline
    simp [hstack, List.count_cons]

/-! ## Many calls -/

theorem run_cons (s : Scope) (call : Call) (calls : List Call) :
    s.run (call :: calls) = (s.perform call).run calls :=
  rfl

theorem run_concat (s : Scope) (calls : List Call) (call : Call) :
    s.run (calls ++ [call]) = (s.run calls).perform call :=
  List.foldl_append

/-- **A scope that no tag is open in twice stays so, whatever is called.** -/
theorem Sound.run (hs : s.Sound) (calls : List Call) : (s.run calls).Sound := by
  induction calls generalizing s with
  | nil => exact hs
  | cons call calls ih => exact ih (hs.perform call)

/-- No call changes whether nesting is allowed. -/
theorem allowNesting_run (s : Scope) (calls : List Call) :
    (s.run calls).allowNesting = s.allowNesting := by
  induction calls generalizing s with
  | nil => rfl
  | cons call calls ih =>
      rw [run_cons, ih, perform, attempt_eq_apply]
      exact s.allowNesting_apply call.line

/-- In a fresh scope nothing is open. -/
theorem sound_new (allowNesting : Bool) : (new allowNesting).Sound :=
  ⟨List.nodup_nil, fun _ => Nat.zero_le 1⟩

/-- There are seven tags, so no more than that are open. -/
theorem Sound.depth_le (hs : s.Sound) : s.depth ≤ 7 := by
  have hall : s.stack ⊆ BlockTag.all := by
    intro tag _
    cases tag <;> decide
  exact (List.subperm_of_subset hs.nodup hall).length_le

/-- **Failing calls can be deleted.**  The others then succeed one after the other and leave the
same scope. -/
theorem attemptAll_accepted (s : Scope) (calls : List Call) :
    s.attemptAll (s.accepted calls) = (.ok (), s.run calls) := by
  induction calls generalizing s with
  | nil => rfl
  | cons call calls ih =>
      rcases attempt_cases s call with ⟨next, hok⟩ | ⟨e, herror⟩
      · simp only [run_cons, perform, accepted, attemptAll, callAll, hok]
        exact ih next
      · simp only [run_cons, perform, accepted, herror]
        exact ih s

/-- **The account of a tag.**  What was open and what was entered is what was exited and what is
open. -/
theorem count_run (s : Scope) (calls : List Call) (tag : BlockTag) :
    s.stack.count tag + entries tag (s.accepted calls) =
      (s.run calls).stack.count tag + exits tag (s.accepted calls) := by
  induction calls generalizing s with
  | nil => rfl
  | cons call calls ih =>
      rcases attempt_cases s call with ⟨next, hok⟩ | ⟨e, herror⟩
      · have hstep := count_attempt hok tag
        have hrest := ih next
        simp only [run_cons, perform, accepted, hok, entries_cons, exits_cons]
        omega
      · simp only [run_cons, perform, accepted, herror]
        exact ih s

/-- A tag is open if it is on the stack. -/
theorem isOpen_iff : s.isOpen tag = true ↔ 0 < s.stack.count tag := by
  rw [isOpen, List.contains_iff_mem, List.count_pos_iff]

/-- **What holds after any calls on a fresh scope**, failing ones included.  No tag is open twice, so
at most seven are open, and at most one where nesting is not allowed.  A failing call leaves the open
tags as they were; without the failing calls every call succeeds and the same tags are open.  A tag
is open exactly if it was entered more often than exited, and then once more. -/
theorem run_keeps_account (allowNesting : Bool) (calls : List Call) :
    (((new allowNesting).run calls).openTags.Nodup ∧
      ((new allowNesting).run calls).depth ≤ 7 ∧
      (allowNesting = false → ((new allowNesting).run calls).depth ≤ 1)) ∧
    (∀ before call after e next, calls = before ++ call :: after →
      ((new allowNesting).run before).attempt call = (.error e, next) →
      (new allowNesting).run (before ++ [call]) = next ∧
        next.openTags = ((new allowNesting).run before).openTags) ∧
    (∃ s, (new allowNesting).attemptAll ((new allowNesting).accepted calls) = (.ok (), s) ∧
      s.openTags = ((new allowNesting).run calls).openTags) ∧
    ∀ tag,
      (((new allowNesting).run calls).isOpen tag = true ↔
        exits tag ((new allowNesting).accepted calls) <
          entries tag ((new allowNesting).accepted calls)) ∧
      (entries tag ((new allowNesting).accepted calls) =
          exits tag ((new allowNesting).accepted calls) ∨
        entries tag ((new allowNesting).accepted calls) =
          exits tag ((new allowNesting).accepted calls) + 1) := by
  have hsound := (sound_new allowNesting).run calls
  refine ⟨⟨List.nodup_reverse.2 hsound.nodup, hsound.depth_le, ?_⟩, ?_, ?_, ?_⟩
  · intro hflat
    apply hsound.flat
    rw [allowNesting_run, ← hflat]
    rfl
  · intro before call after e next _ hcall
    refine ⟨?_, ?_⟩
    · rw [run_concat, perform, hcall]
    · rw [attempt_eq_apply] at hcall
      rw [eq_of_apply_error hcall]
  · exact ⟨_, attemptAll_accepted _ calls, rfl⟩
  · intro tag
    have hcount := count_run (new allowNesting) calls tag
    have hempty : (new allowNesting).stack.count tag = 0 := rfl
    have hone := List.nodup_iff_count_le_one.1 hsound.nodup tag
    rw [isOpen_iff]
    omega

end Scope

end MacroBody
