import MacroBody.Proofs.Diagnostic.Context
import MacroBody.Proofs.Scan.Consistency

/-!
# The diagnostics of a body point at its lines

A diagnostic names its line by a number alone, and the source around it is looked up later by that
number.  So the numbers have to be right: every line that is read is numbered by its place in the
source (`ScanOptions.Course.exists_raw`), whatever is left out before it.

What is left open is reported after everything else, with the number of the last line.  The key local
fact is that there is a last line then (`ScanOptions.Course.lines_ne_nil`): nothing is open before the
first line, so an empty source has nothing to report.  The marked row of the source context is that
line (`Diagnostic.filter_sourceContext`).
-/

namespace MacroBody

open ScanOptions

/-- The diagnostic of a line has the number of the line. -/
theorem LineReport.line_of_diagnostic? {r : LineReport} {d : Diagnostic}
    (h : r.diagnostic? = some d) : d.line = r.line := by
  obtain ⟨message, -, rfl⟩ := Option.map_eq_some_iff.1 h
  rfl

/-- A line further down has an index that is one less once a line was passed. -/
theorem Text.getElem?_later (first : Text) {lines : List Text} {number line : Nat}
    (h : number + 1 < line) :
    (first :: lines)[line - (number + 1)]? = lines[line - (number + 1 + 1)]? := by
  rw [List.getElem?_cons, if_neg (by omega), Nat.sub_sub]

variable [PatternCompiler] {o : ScanOptions} {source : Text}

/-! ## The numbers of the lines -/

namespace ScanOptions.Course

variable {number : Nat} {scope final : Scope} {lines : List Text} {reports : List LineReport}
  {r : LineReport}

/-- **A report has the number of its line**, and its text is that line without what is not read. -/
theorem exists_raw (h : Course o number scope lines reports final) (hr : r ∈ reports) :
    ∃ raw, lines[r.line - (number + 1)]? = some raw ∧ r.text = o.prepare raw := by
  induction h with
  | done number scope => cases hr
  | @skipped number scope final first lines reports hskips tail ih =>
      obtain ⟨raw, hraw, htext⟩ := ih hr
      have hlater := (tail.line_mem hr).1
      exact ⟨raw, (Text.getElem?_later first hlater).trans hraw, htext⟩
  | @read number scope final first lines r' reports hreads hreport tail ih =>
      rcases List.mem_cons.1 hr with rfl | hr
      · rw [hreport]
        exact ⟨first, by simp [report], rfl⟩
      · obtain ⟨raw, hraw, htext⟩ := ih hr
        have hlater := (tail.line_mem hr).1
        exact ⟨raw, (Text.getElem?_later first hlater).trans hraw, htext⟩

/-- A tag that is left open was opened on some line. -/
theorem lines_ne_nil {allowNesting : Bool} {e : ScopeError}
    (h : Course o number (.new allowNesting) lines reports final)
    (hopen : final.unclosed? = some e) : lines ≠ [] := by
  rintro rfl
  cases h
  cases hopen

end ScanOptions.Course

/-! ## The diagnostics of a body -/

/-- The diagnostics of the lines are numbered upwards. -/
theorem pairwise_line_diagnostics (o : ScanOptions) (source : Text) :
    ((scan o source).lines.filterMap LineReport.diagnostic?).Pairwise
      fun d d' => d.line < d'.line := by
  obtain ⟨final, hcourse, -⟩ := scan_course o source
  refine hcourse.pairwise_line.filterMap _ fun r r' hlt d hd d' hd' => ?_
  rwa [LineReport.line_of_diagnostic? hd, LineReport.line_of_diagnostic? hd']

/-- A line that is read is a line of the source. -/
theorem line_mem_scan {r : LineReport} (hr : r ∈ (scan o source).lines) :
    1 ≤ r.line ∧ r.line ≤ source.lines.length := by
  obtain ⟨final, hcourse, -⟩ := scan_course o source
  have hline := hcourse.line_mem hr
  omega

theorem line_mem_of_mem_diagnostics {d : Diagnostic}
    (hd : d ∈ (scan o source).lines.filterMap LineReport.diagnostic?) :
    1 ≤ d.line ∧ d.line ≤ source.lines.length := by
  obtain ⟨r, hr, hdiagnostic⟩ := List.mem_filterMap.1 hd
  rw [LineReport.line_of_diagnostic? hdiagnostic]
  exact line_mem_scan hr

/-- What is left open is reported at the last line, which is there. -/
theorem line_of_mem_trailing {d : Diagnostic} (hd : d ∈ (scan o source).trailing) :
    d.line = source.lines.length ∧ 1 ≤ d.line := by
  obtain ⟨final, hcourse, htrailing⟩ := scan_course o source
  rw [htrailing] at hd
  obtain ⟨e, he, rfl⟩ := List.mem_map.1 hd
  have hlines := hcourse.lines_ne_nil (Option.mem_toList.1 he)
  exact ⟨rfl, List.length_pos_iff.2 hlines⟩

theorem length_trailing_le (o : ScanOptions) (source : Text) :
    (scan o source).trailing.length ≤ 1 := by
  obtain ⟨final, -, htrailing⟩ := scan_course o source
  rw [htrailing, List.length_map]
  cases final.unclosed? <;> simp

/-- **Diagnostics are in the order of the lines.** -/
theorem pairwise_line_errors (o : ScanOptions) (source : Text) :
    (scan o source).errors.Pairwise fun d d' => d.line ≤ d'.line := by
  rw [ScanReport.errors, List.pairwise_append]
  refine ⟨(pairwise_line_diagnostics o source).imp Nat.le_of_lt, ?_, ?_⟩
  · refine List.pairwise_of_forall_mem_list ?_
    intro d hd d' hd'
    rw [(line_of_mem_trailing hd).1, (line_of_mem_trailing hd').1]
  · intro d hd d' hd'
    rw [(line_of_mem_trailing hd').1]
    exact (line_mem_of_mem_diagnostics hd).2

/-- **A diagnostic is about a line of the source.** -/
theorem line_mem_of_mem_errors {d : Diagnostic} (hd : d ∈ (scan o source).errors) :
    1 ≤ d.line ∧ d.line ≤ source.lines.length := by
  rcases List.mem_append.1 hd with hd | hd
  · exact line_mem_of_mem_diagnostics hd
  · obtain ⟨hlast, hpos⟩ := line_of_mem_trailing hd
    exact ⟨hpos, Nat.le_of_eq hlast⟩

/-- **Every diagnostic points at its line.**  A report has the number of its line in the source.  The
diagnostics are in the order of these numbers, and no two have the same one, except that what is left
open is reported at the last line, after an error that this line may have.  The line of a diagnostic
is there, and the source around it has exactly one marked row, with the number and the text of that
line. -/
theorem scan_errors_point_at_lines (o : ScanOptions) (source : Text) :
    (∀ r ∈ (scan o source).lines,
      ∃ raw, source.lines[r.line - 1]? = some raw ∧ r.text = o.prepare raw) ∧
    ((scan o source).errors.Pairwise fun d d' => d.line ≤ d'.line) ∧
    (∃ own : List Diagnostic, (scan o source).errors = own ++ (scan o source).trailing ∧
      (own.Pairwise fun d d' => d.line < d'.line) ∧ (scan o source).trailing.length ≤ 1) ∧
    ∀ d ∈ (scan o source).errors, 1 ≤ d.line ∧ d.line ≤ source.lines.length ∧
      ∃ raw, source.lines[d.line - 1]? = some raw ∧
        (Diagnostic.contextRows source d.line).filter (·.1) = [(true, d.line, raw)] ∧
        ((Diagnostic.sourceContext source d.line).splitOn '\n').filter
            (">>".toList.isPrefixOf ·) =
          [">> ".toList ++ Text.padLeft ' ' 3 (Text.decimal d.line) ++ " | ".toList ++ raw] := by
  refine ⟨?_, pairwise_line_errors o source, ?_, ?_⟩
  · obtain ⟨final, hcourse, -⟩ := scan_course o source
    intro r hr
    exact hcourse.exists_raw hr
  · exact ⟨_, rfl, pairwise_line_diagnostics o source, length_trailing_le o source⟩
  · intro d hd
    obtain ⟨hpos, hle⟩ := line_mem_of_mem_errors hd
    have hmax : max d.line 1 = d.line := Nat.max_eq_left hpos
    obtain ⟨raw, hraw⟩ : ∃ raw, source.lines[d.line - 1]? = some raw :=
      ⟨_, List.getElem?_eq_getElem (by omega)⟩
    refine ⟨hpos, hle, raw, hraw, ?_, ?_⟩
    · rw [Diagnostic.filter_contextRows, hmax, hraw]
      rfl
    · rw [← hmax] at hraw
      rw [Diagnostic.filter_sourceContext hraw, hmax]
      rfl

end MacroBody
