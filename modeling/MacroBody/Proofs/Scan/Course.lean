import Mathlib.Data.List.Basic
import MacroBody.Proofs.Record.Dispatch
import MacroBody.Proofs.Scope.Basic
import MacroBody.Scan

/-!
# The course of a scan

A scan carries a count, a record, a scope and the reports so far from line to line.  This file
separates what matters from what does not: the report of a line depends on its number, its text and
the scope before it (`ScanOptions.report`), and never on the record, which every reading overwrites.

`Course` writes a scan down line by line: each line of the body is left out, or it is read and has
its report, and the scope moves on by the block tags of the reports alone.  The key local fact is
`ScanState.read_eq`, which says this of one step; `ScanState.exists_course` carries it through the
fold, and `scan_course` says it of a whole body.
-/

namespace MacroBody

namespace Scope

/-- The scope after a block tag line. -/
def advance (s : Scope) (line : BlockTagLine) : Scope :=
  (s.apply line).2

/-- The scope after block tag lines, those that break a rule included. -/
def replay (s : Scope) (lines : List BlockTagLine) : Scope :=
  lines.foldl advance s

@[simp]
theorem replay_nil (s : Scope) : s.replay [] = s := rfl

@[simp]
theorem replay_singleton (s : Scope) (line : BlockTagLine) : s.replay [line] = s.advance line := rfl

/-- What is replayed later goes on with the scope that was left earlier. -/
theorem replay_append (s : Scope) (lines lines' : List BlockTagLine) :
    s.replay (lines ++ lines') = (s.replay lines).replay lines' :=
  List.foldl_append

end Scope

namespace LineReport

/-- The block tag line that was read, if it is one. -/
def blockTag? (r : LineReport) : Option BlockTagLine :=
  r.payload.bind Payload.blockTag?

/-- The block tag lines among the reports, in order. -/
def blockTags (reports : List LineReport) : List BlockTagLine :=
  reports.filterMap blockTag?

/-- The block tags of a report are those of its parts. -/
theorem blockTags_append (reports reports' : List LineReport) :
    blockTags (reports ++ reports') = blockTags reports ++ blockTags reports' :=
  List.filterMap_append

theorem blockTags_singleton (r : LineReport) : blockTags [r] = r.blockTag?.toList := by
  cases h : r.blockTag? <;> simp [blockTags, h]

end LineReport

open LineReport

namespace ScanOptions

variable [PatternCompiler]

/-- What a line is read as, apart from any scope. -/
def reading (o : ScanOptions) (text : Text) : Record :=
  ((Record.new .unknown).tryParse text o.order).2

/-- The report of a line that is read, given its number, the scope before it and its text. -/
def report (o : ScanOptions) (number : Nat) (scope : Scope) (text : Text) : LineReport :=
  let (next, outcome, error) := ScanState.settle scope (o.reading text)
  ⟨number, text, (o.reading text).kind, outcome, error, (o.reading text).payload, next.openTags⟩

/-- A body is scanned from line number `number` and the given scope on: these are its lines, the
reports, and the scope at the end. -/
inductive Course (o : ScanOptions) :
    Nat → Scope → List Text → List LineReport → Scope → Prop
  | done (number : Nat) (scope : Scope) : Course o number scope [] [] scope
  | skipped {number : Nat} {scope final : Scope} {raw : Text} {lines : List Text}
      {reports : List LineReport} (hskips : o.skips (o.prepare raw) = true)
      (tail : Course o (number + 1) scope lines reports final) :
      Course o number scope (raw :: lines) reports final
  | read {number : Nat} {scope final : Scope} {raw : Text} {lines : List Text}
      {r : LineReport} {reports : List LineReport} (hreads : o.skips (o.prepare raw) = false)
      (hreport : r = o.report (number + 1) scope (o.prepare raw))
      (tail : Course o (number + 1) (scope.replay (blockTags [r])) lines reports final) :
      Course o number scope (raw :: lines) (r :: reports) final

end ScanOptions

open ScanOptions

/-! ## One line -/

/-- The scope moves on by the block tag that was read. -/
theorem ScanState.settle_fst (scope : Scope) (record : Record) :
    (settle scope record).1 = scope.replay record.blockTag?.toList := by
  unfold settle
  cases record.blockTag? with
  | none => rfl
  | some line =>
      cases happly : scope.apply line with
      | mk result next => cases result <;> simp [Scope.advance, happly]

section

variable [PatternCompiler]

/-- **The record does not show.**  A line that is read adds its report and moves the scope on by its
block tag; nothing of this depends on what the record held. -/
theorem ScanState.read_eq (o : ScanOptions) (s : ScanState) (text : Text) :
    (s.read o text).count = s.count ∧
      (s.read o text).reports = o.report s.count s.scope text :: s.reports ∧
      (s.read o text).scope =
        s.scope.replay (blockTags [o.report s.count s.scope text]) := by
  have hrecord : (s.record.tryParse text o.order).2 = o.reading text := by
    rw [reading, Record.tryParse_eq, Record.tryParse_eq]
  refine ⟨rfl, ?_, ?_⟩
  · simp only [read, report, hrecord]
  · rw [blockTags_singleton]
    simp only [read, hrecord]
    exact settle_fst _ _

/-! ## Many lines -/

/-- **A fold of steps is a course.** -/
theorem ScanState.exists_course (o : ScanOptions) (lines : List Text) (s : ScanState) :
    ∃ reports, Course o s.count s.scope lines reports (lines.foldl (step o) s).scope ∧
      (lines.foldl (step o) s).reports = reports.reverse ++ s.reports ∧
      (lines.foldl (step o) s).count = s.count + lines.length := by
  induction lines generalizing s with
  | nil => exact ⟨[], .done s.count s.scope, rfl, rfl⟩
  | cons raw lines ih =>
      obtain ⟨reports, hcourse, hreports, hcount⟩ := ih (s.step o raw)
      rw [List.foldl_cons, List.length_cons, hreports, hcount]
      cases hskips : o.skips (o.prepare raw) with
      | true =>
          have hstep : s.step o raw = { s with count := s.count + 1 } := if_pos hskips
          rw [hstep] at hcourse ⊢
          exact ⟨reports, .skipped hskips hcourse, rfl, by simp only; omega⟩
      | false =>
          have hstep : s.step o raw = ({ s with count := s.count + 1 } : ScanState).read o
              (o.prepare raw) := if_neg (by simp [hskips])
          obtain ⟨hnumber, hreport, hscope⟩ :=
            read_eq o { s with count := s.count + 1 } (o.prepare raw)
          rw [hstep] at hcourse ⊢
          rw [hnumber, hscope] at hcourse
          refine ⟨_ :: reports, .read hskips rfl hcourse, ?_, ?_⟩
          · rw [hreport, List.reverse_cons, List.append_assoc, List.singleton_append]
          · rw [hnumber]
            simp only
            omega

/-- **A scan is the course of its lines** from a fresh scope.  What is left open at its end is
reported with the number of lines. -/
theorem scan_course (o : ScanOptions) (source : Text) :
    ∃ final : Scope,
      Course o 0 (.new o.allowNestedBlocks) source.lines (scan o source).lines final ∧
      (scan o source).trailing =
        final.unclosed?.toList.map fun e => ⟨source.lines.length, e.message⟩ := by
  obtain ⟨reports, hcourse, hreports, hcount⟩ :=
    ScanState.exists_course o source.lines (.start o)
  have hlines : (scan o source).lines = reports := by
    rw [scan, ScanState.finish, hreports]
    simp [ScanState.start]
  refine ⟨_, hlines ▸ hcourse, ?_⟩
  rw [scan, ScanState.finish, hcount]
  simp [ScanState.start]

/-- The scope at the end is decided by the block tags of the reports. -/
theorem ScanOptions.Course.final_eq {o : ScanOptions} {number : Nat} {scope final : Scope}
    {lines : List Text} {reports : List LineReport}
    (h : Course o number scope lines reports final) : final = scope.replay (blockTags reports) := by
  induction h with
  | done number scope => rfl
  | skipped hskips tail ih => exact ih
  | @read number scope final raw lines r reports hreads hreport tail ih =>
      rw [ih, ← Scope.replay_append, ← blockTags_append]
      rfl

/-- Each report is that of its own line, in the scope that the reports before it have left. -/
theorem ScanOptions.Course.report_eq {o : ScanOptions} {number : Nat} {scope final : Scope}
    {lines : List Text} {reports before after : List LineReport} {r : LineReport}
    (h : Course o number scope lines reports final) (hsplit : reports = before ++ r :: after) :
    r = o.report r.line (scope.replay (blockTags before)) r.text := by
  induction h generalizing before with
  | done number scope => simp at hsplit
  | skipped hskips tail ih => exact ih hsplit
  | @read number scope final raw lines first reports hreads hreport tail ih =>
      cases before with
      | nil =>
          obtain ⟨rfl, -⟩ : first = r ∧ reports = after := by simpa using hsplit
          rw [hreport]
          rfl
      | cons other before =>
          obtain ⟨rfl, hrest⟩ : first = other ∧ reports = before ++ r :: after := by
            simpa using hsplit
          rw [← List.singleton_append, blockTags_append, Scope.replay_append]
          exact ih hrest

/-- Each line of a scan is reported by its number and its text, in some scope. -/
theorem exists_report_of_mem_scan {o : ScanOptions} {source : Text} {r : LineReport}
    (hr : r ∈ (scan o source).lines) : ∃ scope, r = o.report r.line scope r.text := by
  obtain ⟨final, hcourse, -⟩ := scan_course o source
  obtain ⟨before, after, hsplit⟩ := List.append_of_mem hr
  exact ⟨_, hcourse.report_eq hsplit⟩

end

end MacroBody
