import MacroBody.Proofs.Grammar.HexNumeral
import MacroBody.Proofs.Grammar.Origin
import MacroBody.Proofs.Text.Joined
import MacroBody.Proofs.Text.Lines
import MacroBody.Scope

/-!
# Messages of one line

A message is shown as part of one row, so it must not hold a line feed.  What it says of its own has
none, and what it quotes is a part of a line (`GrammarError.oneLine_message`).

The one text that is not quoted is the reason for refusing a pattern.  It is the summary of a report
that may take many lines, and is the last of them that says something.  So it has one line as soon as
the report says anything at all (`Text.oneLine_summary`), and this is all that is asked of a compiler
(`PatternCompiler.Explains`).  The compiler that is used does what is asked (`Pattern.explains`).
-/

namespace MacroBody

open Text

namespace Text

variable {t report : Text}

/-- Words around a quotation stay on one line with it. -/
theorem oneLine_quoting {before quoted after : Text} (hbefore : '\n' ∉ before)
    (hquoted : '\n' ∉ quoted) (hafter : '\n' ∉ after) : '\n' ∉ before ++ quoted ++ after :=
  oneLine_append (oneLine_append hbefore hquoted) hafter

theorem oneLine_hex (n : Nat) : '\n' ∉ hex n := by
  intro hmem
  cases (isHexDigit_of_mem_hex hmem).plain.1

/-- **A summary has one line** if some line of the report is not blank. -/
theorem oneLine_summary (h : ∃ line ∈ report.lines, line.trim ≠ []) : '\n' ∉ report.summary := by
  obtain ⟨line, hline, hne⟩ := h
  have hsome : ((report.lines.reverse.map trim).find? (!·.isEmpty)).isSome = true := by
    rw [List.find?_isSome]
    exact ⟨line.trim, List.mem_map_of_mem (List.mem_reverse.2 hline), by simpa using hne⟩
  obtain ⟨found, hfound⟩ := Option.isSome_iff_exists.1 hsome
  obtain ⟨line, hline, rfl⟩ := List.mem_map.1 (List.mem_of_find?_eq_some hfound)
  rw [summary, hfound]
  exact oneLine_of_isInfix (isInfix_trim line) (oneLine_of_mem_lines (List.mem_reverse.1 hline))

end Text

/-! ## The reason for refusing a pattern -/

/-- The compiler has something to say about every text that it refuses: its report has a line that is
not blank. -/
def PatternCompiler.Explains [PatternCompiler] : Prop :=
  ∀ pattern report, PatternCompiler.report? pattern = some report →
    ∃ line ∈ report.lines, line.trim ≠ []

/-- The report on a fault starts with a line that is not blank. -/
theorem Pattern.Fault.exists_line_report (fault : Fault) (pattern : Text) :
    ∃ line ∈ (fault.report pattern).lines, line.trim ≠ [] := by
  have hheadline : "regex parse error:".toList ∈ lines "regex parse error:\n".toList := by decide
  have hsays : Text.trim "regex parse error:".toList ≠ [] := by decide
  unfold report
  split
  · exact ⟨tooLarge.text.toList, by decide, by decide⟩
  · refine ⟨"regex parse error:".toList, ?_, hsays⟩
    rw [lines_append _ (Or.inr (by decide))]
    exact List.mem_append_left _ hheadline

/-- **The compiler that is used explains what it refuses.** -/
theorem Pattern.explains : PatternCompiler.Explains := by
  intro pattern report hreport
  simp only [PatternCompiler.report?] at hreport
  cases hcompile : compile pattern with
  | ok e => simp [hcompile] at hreport
  | error fault =>
      obtain rfl : fault.report pattern = report := by simpa [hcompile] using hreport
      exact fault.exists_line_report pattern

/-! ## The messages -/

/-- **The message of a cause has one line** if the cause is drawn from one, and the compiler explains
what it refuses. -/
theorem GrammarError.oneLine_message [PatternCompiler] {cause : GrammarError} {line : Text}
    (hexplains : PatternCompiler.Explains) (h : cause.DrawnFrom line) (hline : '\n' ∉ line) :
    '\n' ∉ cause.message := by
  cases cause with
  | reversedRange first last =>
      exact oneLine_append (oneLine_quoting (by decide) (oneLine_hex _) (by decide)) (oneLine_hex _)
  | invalidPattern pattern reason =>
      obtain ⟨hpattern, report, hreport, rfl⟩ := h
      have hquoted := oneLine_of_isInfix hpattern hline
      exact oneLine_append (oneLine_quoting (by decide) hquoted (by decide))
        (oneLine_summary (hexplains pattern report hreport))
  | _ fragment => exact oneLine_quoting (by decide) (oneLine_of_isInfix h hline) (by decide)

theorem BlockTag.oneLine_name (tag : BlockTag) : '\n' ∉ tag.name := by
  cases tag <;> decide

/-- The message of a broken rule has one line. -/
theorem ScopeError.oneLine_message (e : ScopeError) : '\n' ∉ e.message := by
  cases e with
  | unclosed tags =>
      refine oneLine_append (by decide) (oneLine_join fun part hpart => ?_)
      obtain ⟨tag, -, rfl⟩ := List.mem_map.1 hpart
      simp [tag.oneLine_name]
  | alreadyOpen tag | closeWithoutOpen tag =>
      exact oneLine_quoting (by decide) tag.oneLine_name (by decide)
  | nestingNotAllowed tag outer | closeMismatch tag outer =>
      exact oneLine_quoting (oneLine_quoting (by decide) tag.oneLine_name (by decide))
        outer.oneLine_name (by decide)

end MacroBody
