import MacroBody.Proofs.Record.History
import MacroBody.Proofs.Scan.Course

/-!
# Replaying the block tags of a report

A report shows the block tag lines that were read, those included that the scope rejected.  This
file says that nothing else is needed to reproduce what the report says of blocks: a fresh scope,
run over these lines alone, rejects the same ones with the same wording, has the same tags open
after each line, and leaves the same tags open at the end.

A line is settled by its scope if it is a block tag (`report_of_blockTag`) and by its reading if not
(`report_of_other`), and the course of the scan gives each line the scope that the block tags before
it have left.
-/

namespace MacroBody

open LineReport ScanOptions

/-- The scope that the block tags of the reports leave behind, from a fresh one on. -/
def ScanOptions.scopeAfter (o : ScanOptions) (reports : List LineReport) : Scope :=
  (Scope.new o.allowNestedBlocks).replay (blockTags reports)

/-! ## The report of one line -/

section

variable [PatternCompiler] {o : ScanOptions} {number : Nat} {scope : Scope} {text : Text}
  {line : BlockTagLine}

/-- A block tag line is read without an error. -/
theorem ScanOptions.outcome_reading (h : (o.reading text).blockTag? = some line) :
    (o.reading text).outcome = .ok := by
  obtain ⟨p, hp, -⟩ := Option.bind_eq_some_iff.1 h
  exact (Record.coherent_tryParse _ text o.order).outcome_of_payload p hp

/-- A block tag line that the scope lets pass is right. -/
theorem ScanOptions.report_of_ok (hline : (o.report number scope text).blockTag? = some line)
    (happly : (scope.apply line).1 = .ok ()) :
    (o.report number scope text).outcome = .ok ∧ (o.report number scope text).error = none := by
  have hrecord : (o.reading text).blockTag? = some line := hline
  have hpair : scope.apply line = (.ok (), (scope.apply line).2) := Prod.ext happly rfl
  rw [report, ScanState.settle, hrecord]
  simp only
  rw [hpair]
  simp [outcome_reading hrecord]

/-- A block tag line that the scope rejects is reported with the rule it breaks. -/
theorem ScanOptions.report_of_error {e : ScopeError}
    (hline : (o.report number scope text).blockTag? = some line)
    (happly : (scope.apply line).1 = .error e) :
    (o.report number scope text).outcome = .error ∧
      (o.report number scope text).error = some e.message := by
  have hrecord : (o.reading text).blockTag? = some line := hline
  have hpair : scope.apply line = (.error e, (scope.apply line).2) := Prod.ext happly rfl
  rw [report, ScanState.settle, hrecord]
  simp only
  rw [hpair]
  exact ⟨rfl, rfl⟩

/-- A block tag line is right exactly if the scope lets it pass, and else is reported with the rule
it breaks. -/
theorem ScanOptions.report_of_blockTag
    (hline : (o.report number scope text).blockTag? = some line) :
    (((o.report number scope text).outcome = .ok ∧ (o.report number scope text).error = none) ↔
        (scope.apply line).1 = .ok ()) ∧
      ∀ e, (scope.apply line).1 = .error e →
        (o.report number scope text).outcome = .error ∧
          (o.report number scope text).error = some e.message := by
  refine ⟨⟨?_, report_of_ok hline⟩, fun e happly => report_of_error hline happly⟩
  intro hok
  cases happly : (scope.apply line).1 with
  | ok => rfl
  | error e =>
      rw [(report_of_error hline happly).1] at hok
      cases hok.1

/-- A line that is no block tag is reported as it was read. -/
theorem ScanOptions.report_of_other (hline : (o.report number scope text).blockTag? = none) :
    (o.report number scope text).outcome = (o.reading text).outcome ∧
      (o.report number scope text).error =
        if (o.reading text).outcome = .error then some (o.reading text).errorText else none := by
  have hrecord : (o.reading text).blockTag? = none := hline
  simp [report, ScanState.settle, hrecord]

/-- The tags of a report are those open after its line. -/
theorem ScanOptions.scope_report (o : ScanOptions) (number : Nat) (scope : Scope) (text : Text) :
    (o.report number scope text).scope =
      (scope.replay (blockTags [o.report number scope text])).openTags := by
  rw [blockTags_singleton]
  exact congrArg Scope.openTags (ScanState.settle_fst scope _)

end

/-! ## The report of a body -/

/-- **The block tags of a report reproduce it.**  A block tag line of the report is right exactly if
the tags before it let it pass, and else carries the wording of the rule it breaks.  Every line
shows the tags that are open after the block tags up to it, and a line that is no block tag leaves
them as they were and is reported as it was read.  What the block tags leave open is the trailing
diagnostic. -/
theorem scan_replays_block_tags [PatternCompiler] (o : ScanOptions) (source : Text) :
    (∀ before r after, (scan o source).lines = before ++ r :: after →
      (∀ line, r.blockTag? = some line →
        ((r.outcome = .ok ∧ r.error = none) ↔ ((o.scopeAfter before).apply line).1 = .ok ()) ∧
        ∀ e, ((o.scopeAfter before).apply line).1 = .error e →
          r.outcome = .error ∧ r.error = some e.message) ∧
      r.scope = (o.scopeAfter (before ++ [r])).openTags ∧
      (r.blockTag? = none →
        o.scopeAfter (before ++ [r]) = o.scopeAfter before ∧
        r.outcome = (o.reading r.text).outcome ∧
        r.error =
          if (o.reading r.text).outcome = .error then some (o.reading r.text).errorText
          else none)) ∧
    ((o.scopeAfter (scan o source).lines).openTags = [] → (scan o source).trailing = []) ∧
    ((o.scopeAfter (scan o source).lines).openTags ≠ [] →
      (scan o source).trailing =
        [⟨source.lines.length,
          (ScopeError.unclosed (o.scopeAfter (scan o source).lines).openTags).message⟩]) := by
  obtain ⟨final, hcourse, htrailing⟩ := scan_course o source
  have hfinal : final = o.scopeAfter (scan o source).lines := hcourse.final_eq
  refine ⟨?_, ?_, ?_⟩
  · intro before r after hsplit
    have hreport : r = o.report r.line (o.scopeAfter before) r.text := hcourse.report_eq hsplit
    have hnext : o.scopeAfter (before ++ [r]) = (o.scopeAfter before).replay (blockTags [r]) := by
      rw [scopeAfter, blockTags_append, Scope.replay_append]
      rfl
    refine ⟨?_, ?_, ?_⟩
    · intro line hline
      have hblock := report_of_blockTag (hreport ▸ hline)
      rwa [← hreport] at hblock
    · rw [hnext, hreport]
      exact scope_report o _ _ _
    · intro hline
      refine ⟨?_, ?_⟩
      · rw [hnext, blockTags_singleton, hline]
        rfl
      · have hother := report_of_other (hreport ▸ hline)
        rwa [← hreport] at hother
  · intro hempty
    rw [htrailing, hfinal, Scope.unclosed?_of_openTags hempty]
    rfl
  · intro hopen
    rw [htrailing, hfinal, Scope.unclosed?_of_ne_nil hopen]
    rfl

end MacroBody
