import MacroBody.Command.Basic
import MacroBody.Proofs.Scan.Replay

/-!
# The report of a body is consistent

A line report says the same thing several times: by its outcome, its error, its kind and its payload.
These agree on every line of a report (`LineReport.Consistent`), whatever kinds are tried and in
whatever order, and the lines are numbered upwards (`ScanOptions.Course.pairwise_line`).

The key local fact is `ScanOptions.consistent_report`.  A line is first read, and a record that was
just read is consistent; then a block tag is applied to the scope, which overwrites the outcome and
the error together or neither of them.  A rejection by the scope is the one case in which an error
stands beside a payload.

So the two questions that a caller asks of a report, whether anything is wrong and what, have the same
answer (`ScanReport.hasErrors_iff`), and this answer is the status with which the body is classified.
-/

namespace MacroBody

open LineReport ScanOptions

/-- No broken rule is worded as the empty text. -/
theorem ScopeError.message_ne_nil (e : ScopeError) : e.message ≠ [] := by
  unfold message
  split <;> simp only [ne_eq, List.append_eq_nil_iff, String.toList_eq_nil_iff, String.reduceEq,
    false_and, not_false_eq_true]

/-- What the fields of a line report say of one another. -/
structure LineReport.Consistent (r : LineReport) : Prop where
  error_iff : r.error.isSome = true ↔ r.outcome = .error
  error_ne_empty : r.error ≠ some []
  unknown_iff : r.kind = .unknown ↔ r.outcome = .noMatch
  bare_of_noMatch : r.outcome = .noMatch → r.payload = none ∧ r.error = none
  payload_of_ok : r.outcome = .ok → r.payload.isSome = true
  kind_of_payload : ∀ p, r.payload = some p → p.kind = r.kind

/-! ## The numbers of the lines -/

namespace ScanOptions.Course

variable [PatternCompiler] {o : ScanOptions} {number : Nat} {scope final : Scope}
  {lines : List Text} {reports : List LineReport} {r : LineReport}

/-- The lines of a course are counted on from where it starts. -/
theorem line_mem (h : Course o number scope lines reports final) (hr : r ∈ reports) :
    number < r.line ∧ r.line ≤ number + lines.length := by
  induction h with
  | done number scope => cases hr
  | skipped hskips tail ih =>
      have hlater := ih hr
      rw [List.length_cons]
      omega
  | read hreads hreport tail ih =>
      rw [List.length_cons]
      rcases List.mem_cons.1 hr with rfl | hr
      · rw [hreport]
        change _ < _ + 1 ∧ _ + 1 ≤ _
        omega
      · have hlater := ih hr
        omega

/-- **The lines of a course are numbered upwards.** -/
theorem pairwise_line (h : Course o number scope lines reports final) :
    reports.Pairwise fun r r' => r.line < r'.line := by
  induction h with
  | done number scope => exact List.Pairwise.nil
  | skipped hskips tail ih => exact ih
  | @read number scope final raw lines r reports hreads hreport tail ih =>
      refine List.pairwise_cons.2 ⟨?_, ih⟩
      intro r' hr'
      have hline : r.line = number + 1 := by rw [hreport]; rfl
      rw [hline]
      exact (tail.line_mem hr').1

end ScanOptions.Course

/-! ## One line -/

/-- Only the payload of a block tag line gives one. -/
theorem Payload.blockTag?_eq_some {p : Payload} {line : BlockTagLine} :
    p.blockTag? = some line ↔ p = .blockTag line := by
  cases p <;> simp [blockTag?]

/-- Without a success there is no payload. -/
theorem Record.Coherent.payload_eq_none {r : Record} (h : r.Coherent) (hok : r.outcome ≠ .ok) :
    r.payload = none := by
  cases hp : r.payload with
  | none => rfl
  | some p => exact absurd (h.outcome_of_payload p hp) hok

/-- A search ends with the unknown kind exactly if nothing matches. -/
theorem Record.kind_tryParse_eq_unknown_iff [PatternCompiler] (r : Record) (line : Text)
    (kinds : List Kind) :
    (r.tryParse line kinds).2.kind = .unknown ↔ (r.tryParse line kinds).2.outcome = .noMatch := by
  rw [tryParse_eq]
  cases hfind : kinds.find? fun k => (k.read line).isDecisive with
  | none => simp [ofFound, new]
  | some kind =>
      have hdecisive := List.find?_some hfind
      have hkind : kind ≠ .unknown := by
        rintro rfl
        cases hdecisive
      rw [kind_ofFound]
      cases hread : kind.read line with
      | noMatch =>
          rw [hread] at hdecisive
          cases hdecisive
      | rejected cause => simp [ofFound, note, hread, hkind, Verdict.outcome]
      | accepted p => simp [ofFound, note, hread, hkind, Verdict.outcome]

namespace ScanOptions

variable [PatternCompiler] {o : ScanOptions} {number : Nat} {scope : Scope} {text : Text}
  {line : BlockTagLine}

/-- The reading of a line is coherent, as after every search. -/
theorem coherent_reading (o : ScanOptions) (text : Text) : (o.reading text).Coherent :=
  Record.coherent_tryParse _ text o.order

/-- The reading of a line fills the record. -/
theorem whole_reading (o : ScanOptions) (text : Text) : (o.reading text).Whole := by
  have hreads : (Record.Operation.tryParse text o.order).reads = true := rfl
  exact Record.whole_perform_reading hreads _

/-- A line is of the unknown kind exactly if nothing matches. -/
theorem kind_reading_eq_unknown_iff (o : ScanOptions) (text : Text) :
    (o.reading text).kind = .unknown ↔ (o.reading text).outcome = .noMatch :=
  Record.kind_tryParse_eq_unknown_iff _ text o.order

/-- A line that is no block tag is as consistent as its reading. -/
theorem consistent_of_other (hline : (o.report number scope text).blockTag? = none) :
    (o.report number scope text).Consistent := by
  obtain ⟨houtcome, herror⟩ := report_of_other hline
  have hcoherent := o.coherent_reading text
  constructor
  · rw [herror, houtcome]
    split
    · rename_i hwrong
      simp [hwrong]
    · rename_i hright
      simp [hright]
  · rw [herror]
    split
    · rename_i hwrong
      simpa using hcoherent.errorText_ne_nil_iff.2 hwrong
    · simp
  · rw [houtcome]
    exact o.kind_reading_eq_unknown_iff text
  · intro hnone
    rw [houtcome] at hnone
    exact ⟨hcoherent.payload_eq_none (by simp [hnone]), by simp [herror, hnone]⟩
  · rw [houtcome]
    exact (o.whole_reading text).ok_iff.1
  · exact (o.whole_reading text).kind_of_payload

/-- A block tag line stays consistent when the scope rejects it. -/
theorem consistent_of_blockTag (hline : (o.report number scope text).blockTag? = some line) :
    (o.report number scope text).Consistent := by
  have hok : (o.reading text).outcome = .ok := outcome_reading hline
  have hknown : (o.report number scope text).kind ≠ .unknown := by
    intro hunknown
    rw [(o.kind_reading_eq_unknown_iff text).1 hunknown] at hok
    cases hok
  have hpayload : (o.report number scope text).payload.isSome = true :=
    (o.whole_reading text).ok_iff.1 hok
  cases happly : (scope.apply line).1 with
  | ok =>
      obtain ⟨houtcome, herror⟩ := report_of_ok hline happly
      exact ⟨by simp [houtcome, herror], by simp [herror], by simp [houtcome, hknown],
        by simp [houtcome], fun _ => hpayload, (o.whole_reading text).kind_of_payload⟩
  | error e =>
      obtain ⟨houtcome, herror⟩ := report_of_error hline happly
      exact ⟨by simp [houtcome, herror], by simp [herror, e.message_ne_nil],
        by simp [houtcome, hknown], by simp [houtcome], fun _ => hpayload,
        (o.whole_reading text).kind_of_payload⟩

/-- **The report of a line is consistent**, in whatever scope it stands. -/
theorem consistent_report (o : ScanOptions) (number : Nat) (scope : Scope) (text : Text) :
    (o.report number scope text).Consistent := by
  cases hline : (o.report number scope text).blockTag? with
  | none => exact consistent_of_other hline
  | some line => exact consistent_of_blockTag hline

/-- An error beside a payload comes from the scope. -/
theorem exists_rejection {p : Payload} (hp : (o.report number scope text).payload = some p)
    (herror : (o.report number scope text).outcome = .error) :
    ∃ line e, p = .blockTag line ∧ (scope.apply line).1 = .error e ∧
      (o.report number scope text).error = some e.message := by
  cases hline : (o.report number scope text).blockTag? with
  | none =>
      rw [(report_of_other hline).1, (o.coherent_reading text).outcome_of_payload p hp] at herror
      cases herror
  | some line =>
      have hblock : p.blockTag? = some line := by
        rwa [blockTag?, hp] at hline
      have hpayload := Payload.blockTag?_eq_some.1 hblock
      cases happly : (scope.apply line).1 with
      | ok =>
          rw [(report_of_ok hline happly).1] at herror
          cases herror
      | error e => exact ⟨line, e, hpayload, happly, (report_of_error hline happly).2⟩

end ScanOptions

/-! ## Many lines -/

namespace ScanReport

variable {r : ScanReport}

/-- There is one diagnostic for each line with an error and each trailing one. -/
theorem length_errors (h : ∀ line ∈ r.lines, line.Consistent) :
    r.errors.length = r.lines.countP (·.outcome = .error) + r.trailing.length := by
  have hcount : r.lines.countP (fun line => line.diagnostic?.isSome) =
      r.lines.countP (·.outcome = .error) := by
    refine List.countP_congr fun line hline => ?_
    simp [diagnostic?, (h line hline).error_iff]
  rw [errors, List.length_append, List.length_filterMap_eq_countP, hcount]

/-- **Something is wrong exactly if there is a diagnostic.** -/
theorem hasErrors_iff (h : ∀ line ∈ r.lines, line.Consistent) :
    r.hasErrors = true ↔ r.errors ≠ [] := by
  rw [← List.length_pos_iff, length_errors h, hasErrors, Bool.or_eq_true, List.any_eq_true]
  rw [Nat.add_pos_iff_pos_or_pos, List.countP_pos_iff, List.length_pos_iff]
  constructor
  · intro hwrong
    rcases hwrong with htrailing | hline
    · exact Or.inr (by simpa using htrailing)
    · exact Or.inl hline
  · intro hwrong
    rcases hwrong with hline | htrailing
    · exact Or.inr hline
    · exact Or.inl (by simpa using htrailing)

end ScanReport

/-- Every line of the report of a body is consistent. -/
theorem consistent_of_mem_scan [PatternCompiler] {o : ScanOptions} {source : Text} {r : LineReport}
    (hr : r ∈ (scan o source).lines) : r.Consistent := by
  obtain ⟨scope, hreport⟩ := exists_report_of_mem_scan hr
  rw [hreport]
  exact consistent_report _ _ _ _

namespace Command

/-- The status of a report does not depend on the form in which it is written. -/
theorem status_reportOutput (source : Text) (report : ScanReport) (format : Format) :
    (reportOutput source report format).status = if report.hasErrors then 1 else 0 := by
  unfold reportOutput
  cases render report.document format <;> rfl

/-- **A body is classified with status 1 exactly if it was scanned and something is wrong with it**,
in whatever form the report is written. -/
theorem status_classify_eq_one_iff [PatternCompiler] (look : Text → Lookup) (path : Text)
    (format : Format) (config kinds : Option Text) :
    (classify look path format config kinds).status = 1 ↔
      ∃ source o, look path = .file source ∧ scanOptions look config kinds = .ok o ∧
        (scan o source).errors ≠ [] := by
  unfold classify
  cases hlook : look path with
  | file source =>
      cases hoptions : scanOptions look config kinds with
      | error message => simp [failure]
      | ok o =>
          have hconsistent : ∀ r ∈ (scan o source).lines, r.Consistent :=
            fun _ => consistent_of_mem_scan
          simp [status_reportOutput, ScanReport.hasErrors_iff hconsistent]
  | _ => simp [failure]

end Command

/-- **Reports are consistent.**  The lines of a report are numbered upwards and each is consistent; an
error stands beside a payload only where the scope rejects a block tag.  A report has errors exactly
if it has diagnostics, which are one for each line with an error and each trailing one, and exactly
then the body is classified with status 1. -/
theorem scan_reports_consistently [PatternCompiler] :
    (∀ (o : ScanOptions) (source : Text),
      ((scan o source).lines.Pairwise fun r r' => r.line < r'.line) ∧
      (∀ r ∈ (scan o source).lines, r.Consistent) ∧
      (∀ before r after p, (scan o source).lines = before ++ r :: after → r.payload = some p →
        r.outcome = .error → ∃ line e, p = .blockTag line ∧
          ((o.scopeAfter before).apply line).1 = .error e ∧ r.error = some e.message) ∧
      ((scan o source).hasErrors = true ↔ (scan o source).errors ≠ []) ∧
      (scan o source).errors.length =
        (scan o source).lines.countP (·.outcome = .error) + (scan o source).trailing.length) ∧
    ∀ (look : Text → Lookup) (path : Text) (format : Format) (config kinds : Option Text),
      (Command.classify look path format config kinds).status = 1 ↔
        ∃ source o, look path = .file source ∧ Command.scanOptions look config kinds = .ok o ∧
          (scan o source).errors ≠ [] := by
  refine ⟨?_, Command.status_classify_eq_one_iff⟩
  intro o source
  obtain ⟨final, hcourse, -⟩ := scan_course o source
  have hconsistent : ∀ r ∈ (scan o source).lines, r.Consistent := fun _ => consistent_of_mem_scan
  refine ⟨hcourse.pairwise_line, hconsistent, ?_, ScanReport.hasErrors_iff hconsistent,
    ScanReport.length_errors hconsistent⟩
  intro before r after p hsplit hp herror
  have hreport : r = o.report r.line (o.scopeAfter before) r.text := hcourse.report_eq hsplit
  rw [hreport] at hp herror ⊢
  exact exists_rejection hp herror

end MacroBody
