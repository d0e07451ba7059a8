import MacroBody.Diagnostic
import MacroBody.Record
import MacroBody.Scope

/-!
# Scanning a body

A scan reads every line of a body, keeps track of the open blocks and reports what it found. Blank
lines and comments can be left out. Each remaining line is read as the first decisive kind of the
given order; a block tag line is then applied to the scope, and one that breaks a rule of the scope
becomes an error. Tags still open at the end are reported after the lines.

The scan is a fold of `ScanState.step` over the lines, so a body can be scanned in parts.
-/

namespace MacroBody

/-- How a body is scanned. -/
structure ScanOptions where
  /-- The kinds that are tried on a line, in order. -/
  order : List Kind := Kind.defaultOrder
  /-- Removed once from the end of a line. -/
  terminator : Option Text := some [';']
  /-- A line that starts with this is left out. -/
  commentStart : Option Text := some ['/', '/']
  /-- Whether blank lines are left out. -/
  skipBlank : Bool := true
  /-- Whether a block may be opened inside another one. -/
  allowNestedBlocks : Bool := true
  deriving DecidableEq, Repr

/-- What was found on a line. -/
structure LineReport where
  line : Nat
  text : Text
  kind : Kind
  outcome : Outcome
  error : Option Text
  payload : Option Payload
  /-- The tags open after the line, outermost first. -/
  scope : List BlockTag
  deriving DecidableEq, Repr

/-- What was found in a body. -/
structure ScanReport where
  lines : List LineReport
  /-- What is wrong with the body as a whole. -/
  trailing : List Diagnostic
  deriving DecidableEq, Repr

/-- `t` without one `ending`, if it ends with it. -/
def Text.dropEnding (t ending : Text) : Text :=
  if ending.isSuffixOf t then t.take (t.length - ending.length) else t

namespace ScanOptions

/-- The text of a line that is read: trimmed, and without one terminator. -/
def prepare (o : ScanOptions) (raw : Text) : Text :=
  match o.terminator with
  | some terminator => raw.trim.dropEnding terminator
  | none => raw.trim

/-- Whether a prepared line is left out. -/
def skips (o : ScanOptions) (text : Text) : Bool :=
  if text.isEmpty then o.skipBlank
  else
    match o.commentStart with
    | some start => start.isPrefixOf text
    | none => false

end ScanOptions

/-- What a scan carries from line to line. -/
structure ScanState where
  /-- The number of lines read. -/
  count : Nat
  record : Record
  scope : Scope
  /-- The reports so far, last first. -/
  reports : List LineReport
  deriving DecidableEq, Repr

namespace ScanState

/-- The state before the first line. -/
def start (o : ScanOptions) : ScanState :=
  ⟨0, {}, .new o.allowNestedBlocks, []⟩

/-- The scope, the outcome and the error of a line once its block tag, if it is one, has been
applied. -/
def settle (scope : Scope) (record : Record) : Scope × Outcome × Option Text :=
  let own := if record.outcome = .error then some record.errorText else none
  match record.blockTag? with
  | none => (scope, record.outcome, own)
  | some line =>
    match scope.apply line with
    | (.ok _, after) => (after, record.outcome, own)
    | (.error e, after) => (after, .error, some e.message)

section

variable [PatternCompiler]

/-- Reads a line that is not left out. -/
def read (o : ScanOptions) (s : ScanState) (text : Text) : ScanState :=
  let (_, record) := s.record.tryParse text o.order
  let (scope, outcome, error) := settle s.scope record
  let report : LineReport :=
    ⟨s.count, text, record.kind, outcome, error, record.payload, scope.openTags⟩
  { s with record := record.withoutPayload, scope := scope, reports := report :: s.reports }

/-- Takes the next line of the body. -/
def step (o : ScanOptions) (s : ScanState) (raw : Text) : ScanState :=
  let counted := { s with count := s.count + 1 }
  let text := o.prepare raw
  if o.skips text then counted else counted.read o text

end

/-- The report after the last line. -/
def finish (s : ScanState) : ScanReport where
  lines := s.reports.reverse
  trailing := s.scope.unclosed?.toList.map fun e => ⟨s.count, e.message⟩

end ScanState

/-- Scans a body. -/
def scan [PatternCompiler] (o : ScanOptions) (source : Text) : ScanReport :=
  (source.lines.foldl (ScanState.step o) (.start o)).finish

namespace LineReport

/-- The diagnostic of a line, if it has an error. -/
def diagnostic? (r : LineReport) : Option Diagnostic :=
  r.error.map (⟨r.line, ·⟩)

/-- The row of a line in a report. -/
def row (r : LineReport) : Text :=
  Text.decimal r.line ++ ": ".toList ++ r.kind.name ++ [' '] ++ r.outcome.label ++
    (match r.error with
      | some error => ": ".toList ++ error
      | none => []) ++ ['\n']

end LineReport

namespace ScanReport

/-- Whether anything is wrong. -/
def hasErrors (r : ScanReport) : Bool :=
  !r.trailing.isEmpty || r.lines.any (·.outcome = .error)

/-- Everything that is wrong, in the order of the lines. -/
def errors (r : ScanReport) : List Diagnostic :=
  r.lines.filterMap LineReport.diagnostic? ++ r.trailing

/-- The report as text, one row for each line and each trailing diagnostic. -/
def toText (r : ScanReport) : Text :=
  (r.lines.map LineReport.row ++ r.trailing.map fun d => d.display ++ ['\n']).flatten

end ScanReport

end MacroBody
