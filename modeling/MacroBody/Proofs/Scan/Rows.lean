import MacroBody.Proofs.Grammar.Message
import MacroBody.Proofs.Scan.Diagnostics
import MacroBody.Proofs.Scan.Replay
import MacroBody.Proofs.Scan.Skipping

/-!
# Reading a report back from its text

A report is written as one row for each line and each trailing diagnostic.  The text loses nothing of
what the rows tell: it has one line feed for each row, and reports with the same text tell the same.

There are two steps.  A row can be read back: the number ends at the colon, the kind at the blank and
the outcome at the next colon (`Entry.text_injective`), and a row of a line starts with a digit, which
a trailing row does not (`Row.text_injective`).  And the rows can be told apart in the text, because
no message of a scan holds a line feed (`oneLine_of_mem_errors`), whatever it quotes.
-/

namespace MacroBody

open Text LineReport ScanOptions

/-- What the row of a line tells. -/
structure Entry where
  line : Nat
  kind : Kind
  outcome : Outcome
  error : Option Text
  deriving DecidableEq, Repr

/-- What the report of a line tells in its row. -/
def LineReport.entry (r : LineReport) : Entry :=
  ⟨r.line, r.kind, r.outcome, r.error⟩

/-- An error as it stands at the end of a row. -/
def Entry.errorText : Option Text → Text
  | some error => ": ".toList ++ error
  | none => []

/-- The row of an entry, without the line feed that ends it. -/
def Entry.text (e : Entry) : Text :=
  Text.decimal e.line ++ (": ".toList ++ (e.kind.name ++ (' ' :: (e.outcome.label ++
    errorText e.error))))

/-- A row of a report. -/
inductive Row
  | entry (e : Entry)
  | trailing (d : Diagnostic)
  deriving DecidableEq, Repr

/-- A row without the line feed that ends it. -/
def Row.text : Row → Text
  | entry e => e.text
  | trailing d => d.display

/-- The rows of a report. -/
def ScanReport.rows (r : ScanReport) : List Row :=
  r.lines.map (.entry ·.entry) ++ r.trailing.map .trailing

/-- The text of a report is its rows, each ended by a line feed. -/
theorem ScanReport.toText_eq (r : ScanReport) :
    r.toText = ((r.rows.map Row.text).map (· ++ ['\n'])).flatten := by
  have hrow : ∀ line : LineReport, line.row = line.entry.text ++ ['\n'] := by
    intro line
    cases herror : line.error <;>
      simp [LineReport.row, LineReport.entry, Entry.text, Entry.errorText, herror]
  have hrows : r.lines.map LineReport.row = r.lines.map fun line => line.entry.text ++ ['\n'] :=
    List.map_congr_left fun line _ => hrow line
  simp [toText, rows, hrows, Row.text, Function.comp_def]

/-! ## One row -/

section

variable {n n' : Nat} {b b' : Text}

theorem Text.decimal_injective (h : Text.decimal n = Text.decimal n') : n = n' := by
  have hdigits : Nat.toDigits 10 n = Nat.toDigits 10 n' := h
  rw [← Nat.ofDigitChars_ten_toDigits (n := n), hdigits, Nat.ofDigitChars_ten_toDigits]

/-- A number ends at a colon. -/
theorem Text.decimal_unique (h : Text.decimal n ++ ':' :: b = Text.decimal n' ++ ':' :: b') :
    n = n' ∧ b = b' := by
  obtain ⟨hnumber, hrest⟩ := span_unique (p := Char.isDigit) (fun _ => isDigit_of_mem_decimal)
    (fun _ => isDigit_of_mem_decimal) (stops_cons.2 rfl) (stops_cons.2 rfl) h
  exact ⟨decimal_injective hnumber, List.tail_eq_of_cons_eq hrest⟩

/-- The name of a kind ends at a blank. -/
theorem Kind.name_unique {k k' : Kind} (h : k.name ++ ' ' :: b = k'.name ++ ' ' :: b') :
    k = k' ∧ b = b' := by
  have hword : ∀ kind : Kind, kind.name.all isWord = true := by
    intro kind
    cases kind <;> decide
  obtain ⟨hname, hrest⟩ := span_unique (List.all_eq_true.1 (hword k))
    (List.all_eq_true.1 (hword k')) (stops_cons.2 rfl) (stops_cons.2 rfl) h
  have hkind : some k = some k' := by
    rw [← ofName?_name k, hname, ofName?_name]
  exact ⟨Option.some.inj hkind, List.tail_eq_of_cons_eq hrest⟩

/-- What an outcome is called ends where the error is told. -/
theorem Outcome.label_unique {o o' : Outcome} {e e' : Option Text}
    (h : o.label ++ Entry.errorText e = o'.label ++ Entry.errorText e') : o = o' ∧ e = e' := by
  have hcolon : ∀ outcome : Outcome, outcome.label.all (· != ':') = true := by
    intro outcome
    cases outcome <;> decide
  have hstops : ∀ error : Option Text, Stops (· != ':') (Entry.errorText error) := by
    intro error
    cases error with
    | none => exact stops_nil
    | some error => exact stops_cons.2 rfl
  obtain ⟨hlabel, herror⟩ := span_unique (List.all_eq_true.1 (hcolon o))
    (List.all_eq_true.1 (hcolon o')) (hstops e) (hstops e') h
  refine ⟨?_, ?_⟩
  · revert hlabel
    cases o <;> cases o' <;> decide
  · cases e with
    | none => cases e' with
      | none => rfl
      | some error' => cases herror
    | some error => cases e' with
      | none => cases herror
      | some error' => exact congrArg some (List.append_cancel_left herror)

end

/-- **The row of a line can be read back.** -/
theorem Entry.text_injective : Function.Injective Entry.text := by
  intro e e' h
  -- Whatever an error holds, it comes last, so no mark in it is taken for an earlier one.
  obtain ⟨hline, hrest⟩ := Text.decimal_unique h
  obtain ⟨hkind, hrest⟩ := Kind.name_unique (List.tail_eq_of_cons_eq hrest)
  obtain ⟨houtcome, herror⟩ := Outcome.label_unique hrest
  cases e
  cases e'
  congr

/-- The row of a trailing diagnostic can be read back. -/
theorem Diagnostic.display_injective : Function.Injective Diagnostic.display := by
  intro d d' h
  unfold display at h
  simp only [List.append_assoc] at h
  obtain ⟨hline, hrest⟩ := Text.decimal_unique (List.append_cancel_left h)
  cases d
  cases d'
  congr
  exact List.tail_eq_of_cons_eq hrest

/-- The row of a line starts with a digit. -/
theorem Entry.head_text (e : Entry) : ∃ c rest, e.text = c :: rest ∧ c.isDigit = true := by
  obtain ⟨c, rest, hdecimal⟩ := List.exists_cons_of_ne_nil (Text.decimal_ne_nil e.line)
  refine ⟨c, _, by rw [text, hdecimal, List.cons_append], ?_⟩
  exact isDigit_of_mem_decimal (n := e.line) (hdecimal ▸ List.mem_cons_self)

/-- **A row can be read back.** -/
theorem Row.text_injective : Function.Injective Row.text := by
  have happart : ∀ (e : Entry) (d : Diagnostic), e.text ≠ d.display := by
    intro e d h
    obtain ⟨c, rest, htext, hdigit⟩ := e.head_text
    obtain ⟨rfl, -⟩ : c = 'l' ∧ rest = _ := List.cons.inj (htext.symm.trans h)
    cases hdigit
  intro row row' h
  cases row with
  | entry e => cases row' with
    | entry e' => exact congrArg entry (Entry.text_injective h)
    | trailing d' => exact absurd h (happart e d')
  | trailing d => cases row' with
    | entry e' => exact absurd h.symm (happart e' d)
    | trailing d' => exact congrArg trailing (Diagnostic.display_injective h)

/-- The row of a line breaks only in its error. -/
theorem Entry.oneLine_text {e : Entry} (h : ∀ error, e.error = some error → '\n' ∉ error) :
    '\n' ∉ e.text := by
  have hname : '\n' ∉ e.kind.name := by
    cases e.kind <;> decide
  have hlabel : '\n' ∉ e.outcome.label := by
    cases e.outcome <;> decide
  have herror : '\n' ∉ errorText e.error := by
    cases hcase : e.error with
    | none => exact List.not_mem_nil
    | some error => exact oneLine_append (by decide) (h error hcase)
  refine oneLine_append (oneLine_decimal e.line) (oneLine_append (by decide) ?_)
  refine oneLine_append hname (List.not_mem_cons_of_ne_of_not_mem (by decide) ?_)
  exact oneLine_append hlabel herror

/-! ## The rows of a scan -/

section

variable [PatternCompiler] {o : ScanOptions} {source : Text} {number : Nat} {scope : Scope}
  {text : Text}

/-- The line that is read is a part of a line of the source. -/
theorem oneLine_text_of_mem_scan {r : LineReport} (hr : r ∈ (scan o source).lines) :
    '\n' ∉ r.text := by
  obtain ⟨final, hcourse, -⟩ := scan_course o source
  obtain ⟨raw, hraw, htext⟩ := hcourse.exists_raw hr
  rw [htext]
  refine oneLine_of_isInfix ((o.prepare_prefix raw).isInfix.trans (isInfix_trim raw)) ?_
  exact oneLine_of_mem_lines (List.mem_of_getElem? hraw)

/-- What a reading says of a line of text has one line. -/
theorem oneLine_errorText_reading (hexplains : PatternCompiler.Explains) (o : ScanOptions)
    (htext : '\n' ∉ text) : '\n' ∉ (o.reading text).errorText := by
  rw [reading, Record.tryParse_eq]
  cases o.order.find? fun k => (k.read text).isDecisive with
  | none => exact List.not_mem_nil
  | some kind =>
      have hdrawn := kind.read_drawn text
      change '\n' ∉ ((Record.new kind).note (kind.read text)).2.errorText
      cases hread : kind.read text with
      | noMatch => exact List.not_mem_nil
      | accepted payload => exact List.not_mem_nil
      | rejected cause =>
          rw [hread] at hdrawn
          exact GrammarError.oneLine_message hexplains hdrawn htext

/-- **The error of a line has one line**, whether its grammar or its scope rejects it. -/
theorem oneLine_error_report (hexplains : PatternCompiler.Explains) (htext : '\n' ∉ text)
    {error : Text} (herror : (o.report number scope text).error = some error) : '\n' ∉ error := by
  cases hblock : (o.report number scope text).blockTag? with
  | none =>
      rw [(report_of_other hblock).2] at herror
      split at herror
      · exact Option.some.inj herror ▸ oneLine_errorText_reading hexplains o htext
      · cases herror
  | some line =>
      cases happly : (scope.apply line).1 with
      | ok =>
          rw [(report_of_ok hblock happly).2] at herror
          cases herror
      | error e =>
          rw [(report_of_error hblock happly).2] at herror
          exact Option.some.inj herror ▸ e.oneLine_message

/-- A trailing diagnostic has one line, as every message of a scope. -/
theorem oneLine_of_mem_trailing {d : Diagnostic} (hd : d ∈ (scan o source).trailing) :
    '\n' ∉ d.message := by
  obtain ⟨final, -, htrailing⟩ := scan_course o source
  rw [htrailing] at hd
  obtain ⟨e, -, rfl⟩ := List.mem_map.1 hd
  exact e.oneLine_message

/-- The error of a line that is read has one line. -/
theorem oneLine_error_of_mem_scan (hexplains : PatternCompiler.Explains) {r : LineReport}
    (hr : r ∈ (scan o source).lines) {error : Text} (herror : r.error = some error) :
    '\n' ∉ error := by
  obtain ⟨scope, hreport⟩ := exists_report_of_mem_scan hr
  rw [hreport] at herror
  exact oneLine_error_report hexplains (oneLine_text_of_mem_scan hr) herror

/-- **No message of a scan holds a line feed.** -/
theorem oneLine_of_mem_errors (hexplains : PatternCompiler.Explains) {d : Diagnostic}
    (hd : d ∈ (scan o source).errors) : '\n' ∉ d.message := by
  rcases List.mem_append.1 hd with hd | hd
  · obtain ⟨r, hr, hdiagnostic⟩ := List.mem_filterMap.1 hd
    obtain ⟨error, herror, rfl⟩ := Option.map_eq_some_iff.1 hdiagnostic
    exact oneLine_error_of_mem_scan hexplains hr herror
  · exact oneLine_of_mem_trailing hd

/-- A row of a scan is one line of the text. -/
theorem oneLine_of_mem_rows (hexplains : PatternCompiler.Explains) {row : Row}
    (hrow : row ∈ (scan o source).rows) : '\n' ∉ row.text := by
  rcases List.mem_append.1 hrow with hrow | hrow
  · obtain ⟨r, hr, rfl⟩ := List.mem_map.1 hrow
    exact Entry.oneLine_text fun error herror => oneLine_error_of_mem_scan hexplains hr herror
  · obtain ⟨d, hd, rfl⟩ := List.mem_map.1 hrow
    refine oneLine_append (oneLine_append ?_ (by decide)) (oneLine_of_mem_trailing hd)
    exact oneLine_append (by decide) (oneLine_decimal d.line)

/-- The lines of the text are the rows. -/
theorem splitOn_toText (hexplains : PatternCompiler.Explains) (o : ScanOptions) (source : Text) :
    (scan o source).toText.splitOn '\n' = (scan o source).rows.map Row.text ++ [[]] := by
  rw [ScanReport.toText_eq]
  refine splitOn_ended fun part hpart => ?_
  obtain ⟨row, hrow, rfl⟩ := List.mem_map.1 hpart
  exact oneLine_of_mem_rows hexplains hrow

end

/-! ## The text of a report -/

/-- What a row tells of a line. -/
def Row.entry? : Row → Option Entry
  | entry e => some e
  | trailing _ => none

/-- What a row tells of the body as a whole. -/
def Row.trailing? : Row → Option Diagnostic
  | entry _ => none
  | trailing d => some d

namespace ScanReport

theorem entries_rows (r : ScanReport) :
    r.rows.filterMap Row.entry? = r.lines.map LineReport.entry := by
  simp [rows, List.filterMap_append, List.filterMap_map, Function.comp_def, Row.entry?]

theorem trailing_rows (r : ScanReport) : r.rows.filterMap Row.trailing? = r.trailing := by
  simp [rows, List.filterMap_append, List.filterMap_map, Function.comp_def, Row.trailing?]

/-- The rows of a report are what its lines and its trailing diagnostics tell. -/
theorem rows_eq_iff {r r' : ScanReport} :
    r.rows = r'.rows ↔
      r.lines.map LineReport.entry = r'.lines.map LineReport.entry ∧ r.trailing = r'.trailing := by
  constructor
  · intro h
    rw [← entries_rows, ← entries_rows, ← trailing_rows r, ← trailing_rows r', h]
    exact ⟨rfl, rfl⟩
  · intro h
    have hsplit : ∀ report : ScanReport, report.rows =
        (report.lines.map LineReport.entry).map .entry ++ report.trailing.map .trailing := by
      intro report
      simp [rows, Function.comp_def]
    rw [hsplit, hsplit, h.1, h.2]

end ScanReport

/-- A scan has one line feed for each row. -/
theorem count_toText [PatternCompiler] (hexplains : PatternCompiler.Explains) (o : ScanOptions)
    (source : Text) :
    (scan o source).toText.count '\n' =
      (scan o source).lines.length + (scan o source).trailing.length := by
  have hline : ∀ part ∈ (scan o source).rows.map Row.text, '\n' ∉ part := by
    intro part hpart
    obtain ⟨row, hrow, rfl⟩ := List.mem_map.1 hpart
    exact oneLine_of_mem_rows hexplains hrow
  rw [ScanReport.toText_eq, count_ended hline]
  simp [ScanReport.rows]

/-- The text of a scan tells its rows. -/
theorem toText_eq_iff [PatternCompiler] (hexplains : PatternCompiler.Explains)
    {o o' : ScanOptions} {source source' : Text} :
    (scan o source).toText = (scan o' source').toText ↔
      (scan o source).rows = (scan o' source').rows := by
  constructor
  · intro h
    -- The line feeds of the text are those between its rows, so splitting gives the rows back.
    have hlines := congrArg (List.splitOn '\n') h
    rw [splitOn_toText hexplains, splitOn_toText hexplains] at hlines
    exact (List.map_injective_iff.2 Row.text_injective) (List.append_cancel_right hlines)
  · intro h
    rw [ScanReport.toText_eq, ScanReport.toText_eq, h]

/-- **The text of a report loses nothing.**  Let every report of the compiler of patterns have a
line that is not blank, as those of the compiler that is used have (`Pattern.explains`).  Then no
message of a scan holds a line feed, so the text has one line feed for each line and each trailing
diagnostic; and two scans have the same text exactly if their lines tell the same numbers, kinds,
outcomes and errors, and their trailing diagnostics are the same. -/
theorem scan_toText_lossless [PatternCompiler] (hexplains : PatternCompiler.Explains) :
    (∀ (o : ScanOptions) (source : Text),
      (∀ d ∈ (scan o source).errors, '\n' ∉ d.message) ∧
      (scan o source).toText.count '\n' =
        (scan o source).lines.length + (scan o source).trailing.length) ∧
    ∀ (o o' : ScanOptions) (source source' : Text),
      (scan o source).toText = (scan o' source').toText ↔
        (scan o source).lines.map LineReport.entry = (scan o' source').lines.map LineReport.entry ∧
          (scan o source).trailing = (scan o' source').trailing := by
  refine ⟨?_, ?_⟩
  · intro o source
    exact ⟨fun d hd => oneLine_of_mem_errors hexplains hd, count_toText hexplains o source⟩
  · intro o o' source source'
    rw [toText_eq_iff hexplains, ScanReport.rows_eq_iff]

/-- A compiler that refuses one text, with a report on it. -/
@[reducible] def PatternCompiler.refusing (refused report : Text) : PatternCompiler where
  report? pattern := if pattern = refused then some report else none

/-- A compiler that refuses one text explains what it refuses if its report does. -/
theorem PatternCompiler.explains_refusing {refused report : Text}
    (h : ∃ line ∈ report.lines, line.trim ≠ []) : (refusing refused report).Explains := by
  intro pattern report' hreport
  obtain ⟨-, rfl⟩ : pattern = refused ∧ report = report' := by
    simpa [report?] using hreport
  exact h

/-- The report on a pattern has four lines, of which the last one is told, and what another message
quotes looks like rows. -/
theorem scan_toText_lossless_quoted :
    let report := "regex parse error:\n    M[0-9\n     ^\nerror: unclosed character class".toList
    let compiler := PatternCompiler.refusing "M[0-9".toList report
    let source := "\"M[0-9\"\nset 1: word ok 2: word ok\n<routing>".toList
    compiler.Explains ∧
      (@scan compiler {} source).toText.count '\n' = 4 ∧
      (@scan compiler {} source).lines.head?.bind (·.error) =
        some "Invalid string match pattern 'M[0-9': error: unclosed character class".toList := by
  intro report compiler source
  have hexplains : compiler.Explains :=
    PatternCompiler.explains_refusing ⟨"regex parse error:".toList, by decide, by decide⟩
  refine ⟨hexplains, ?_, by decide⟩
  rw [((scan_toText_lossless hexplains).1 {} source).2]
  decide

end MacroBody
