import MacroBody.Proofs.Scan.Course
import MacroBody.Proofs.Text.Lines

/-!
# Scanning a body in parts

A body can be scanned in two parts if the first one ends with its line and leaves no block open.
The report of the whole is then the two reports one after the other, with the lines of the second
counted on from the first (`scan_append`).

Nothing else passes from the first part to the second.  A course depends on what was before it by
its line number and its scope only: courses that meet can be joined (`Course.append`), a course can
be counted from another line on (`Course.later`), and a part that leaves no block open leaves a fresh
scope (`Scope.eq_new_of_unclosed?`).
-/

namespace MacroBody

open LineReport ScanOptions

/-- The diagnostic as it stands `count` lines further down. -/
def Diagnostic.later (d : Diagnostic) (count : Nat) : Diagnostic :=
  { d with line := d.line + count }

/-- The report of a line as it stands `count` lines further down. -/
def LineReport.later (r : LineReport) (count : Nat) : LineReport :=
  { r with line := r.line + count }

/-! ## The scope between the parts -/

namespace Scope

/-- No lines change whether nesting is allowed. -/
theorem allowNesting_replay (s : Scope) (lines : List BlockTagLine) :
    (s.replay lines).allowNesting = s.allowNesting := by
  induction lines generalizing s with
  | nil => rfl
  | cons line lines ih => exact (ih (s.advance line)).trans (s.allowNesting_apply line)

/-- A scope in which nothing is open is a fresh one. -/
theorem eq_new_of_unclosed? {s : Scope} (h : s.unclosed? = none) : s = new s.allowNesting := by
  obtain ⟨stack, allowNesting⟩ := s
  obtain rfl : stack = [] := by simpa [unclosed?] using h
  rfl

end Scope

/-! ## Courses -/

namespace ScanOptions.Course

variable [PatternCompiler] {o : ScanOptions} {number : Nat} {scope mid final final' : Scope}
  {lines lines' : List Text} {reports reports' : List LineReport}

/-- Lines from a number and a scope on have one course. -/
theorem unique (h : Course o number scope lines reports final)
    (h' : Course o number scope lines reports' final') : reports = reports' ∧ final = final' := by
  induction h generalizing reports' with
  | done number scope =>
      cases h'
      exact ⟨rfl, rfl⟩
  | skipped hskips tail ih =>
      cases h' with
      | skipped _ tail' => exact ih tail'
      | read hreads _ _ =>
          rw [hskips] at hreads
          cases hreads
  | read hreads hreport tail ih =>
      cases h' with
      | skipped hskips _ =>
          rw [hskips] at hreads
          cases hreads
      | read _ hreport' tail' =>
          subst hreport hreport'
          obtain ⟨rfl, rfl⟩ := ih tail'
          exact ⟨rfl, rfl⟩

/-- A course that starts where another one ends continues it. -/
theorem append (h : Course o number scope lines reports mid)
    (h' : Course o (number + lines.length) mid lines' reports' final) :
    Course o number scope (lines ++ lines') (reports ++ reports') final := by
  induction h with
  | done number scope => exact h'
  | @skipped number scope mid raw lines reports hskips tail ih =>
      refine .skipped hskips (ih ?_)
      rwa [List.length_cons, ← Nat.add_assoc, Nat.add_right_comm] at h'
  | @read number scope mid raw lines r reports hreads hreport tail ih =>
      refine .read hreads hreport (ih ?_)
      rwa [List.length_cons, ← Nat.add_assoc, Nat.add_right_comm] at h'

/-- A course counted from a later line on has the same reports, further down. -/
theorem later (h : Course o number scope lines reports final) (count : Nat) :
    Course o (number + count) scope lines (reports.map (LineReport.later · count)) final := by
  induction h with
  | done number scope => exact .done (number + count) scope
  | skipped hskips tail ih =>
      rw [Nat.add_right_comm] at ih
      exact .skipped hskips ih
  | read hreads hreport tail ih =>
      rw [Nat.add_right_comm] at ih
      refine .read hreads ?_ ih
      rw [hreport, Nat.add_right_comm]
      rfl

end ScanOptions.Course

/-! ## Bodies -/

/-- **A body can be scanned in parts.**  If the first part ends with its line and its report has no
trailing diagnostic, the report of the whole is that of the first part followed by that of the
second, counted on from the lines of the first. -/
theorem scan_append [PatternCompiler] (o : ScanOptions) {a : Text} (b : Text)
    (ha : a = [] ∨ a.getLast? = some '\n') (hclosed : (scan o a).trailing = []) :
    scan o (a ++ b) =
      { lines := (scan o a).lines ++ (scan o b).lines.map (LineReport.later · a.lines.length)
        trailing := (scan o b).trailing.map (Diagnostic.later · a.lines.length) } := by
  obtain ⟨finalA, hcourseA, htrailingA⟩ := scan_course o a
  obtain ⟨finalB, hcourseB, htrailingB⟩ := scan_course o b
  obtain ⟨final, hcourse, htrailing⟩ := scan_course o (a ++ b)
  have hfresh : finalA = .new o.allowNestedBlocks := by
    have hunclosed : finalA.unclosed? = none := by
      simpa [htrailingA] using hclosed
    rw [Scope.eq_new_of_unclosed? hunclosed, hcourseA.final_eq, Scope.allowNesting_replay]
    rfl
  have hlines := Text.lines_append b ha
  have hjoined := hcourseA.append (hfresh ▸ hcourseB.later a.lines.length)
  rw [← hlines] at hjoined
  obtain ⟨hreports, rfl⟩ := hcourse.unique hjoined
  have hrest : (scan o (a ++ b)).trailing =
      (scan o b).trailing.map (Diagnostic.later · a.lines.length) := by
    rw [htrailing, htrailingB, List.map_map, hlines, List.length_append, Nat.add_comm]
    rfl
  rw [← hreports, ← hrest]

/-- A rejected line, a comment and a block in the first part leave no trace in the second, whose
blank line counts and which leaves its own block open. -/
theorem scan_append_blocks :
    List.getLast? "<routing>\n</limitations>\n</routing>\n// end\n".toList = some '\n' ∧
      (scan {} "<routing>\n</limitations>\n</routing>\n// end\n".toList).trailing = [] ∧
      ((scan {} ("<routing>\n</limitations>\n</routing>\n// end\n".toList ++
          "\n<routing>".toList)).lines.map (·.line) = [1, 2, 3, 6] ∧
        (scan {} ("<routing>\n</limitations>\n</routing>\n// end\n".toList ++
          "\n<routing>".toList)).trailing = [⟨6, "unclosed blocktag(s) <routing>".toList⟩]) := by
  have hend :
      List.getLast? "<routing>\n</limitations>\n</routing>\n// end\n".toList = some '\n' := by
    decide
  have hclosed :
      (scan {} "<routing>\n</limitations>\n</routing>\n// end\n".toList).trailing = [] := by
    decide
  refine ⟨hend, hclosed, ?_⟩
  rw [scan_append {} "\n<routing>".toList (Or.inr hend) hclosed]
  decide

end MacroBody
