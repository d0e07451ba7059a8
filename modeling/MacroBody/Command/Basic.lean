import MacroBody.Command.Request
import MacroBody.Document.Json
import MacroBody.Document.Yaml.Basic
import MacroBody.Grammar.Inspect
import MacroBody.Settings.Basic

/-!
# The command line

A command line is run on what its paths lead to, and gives what is to be written and the status to end
with: 0 if all is well, 1 if a line is wrong, 2 if nothing could be done. A body is read before the
settings, and the settings before the kinds given on the command line, so that the first thing that is
wrong is the one that is told.
-/

namespace MacroBody.Command

/-- What a command leaves behind. -/
structure Output where
  status : Nat := 0
  stdout : Text := []
  stderr : Text := []
  deriving DecidableEq, Repr

/-- The output of a command that could not do its work. -/
def failure (message : Text) : Output :=
  { status := 2, stderr := "Error: ".toList ++ message ++ ['\n'] }

/-- A document in one of the forms. The plain form is left to the command. -/
def render (d : Document) : Format → Option Text
  | .text => none
  | .json => some d.toJson
  | .yaml => some d.toYaml

/-- The settings file that is used if it is there. -/
def localSettings : Text :=
  "macrogram.toml".toList

/-- The layers of the settings. -/
def layers (config : Option Text) : List Layer :=
  .optionalFile localSettings :: config.toList.map .file

/-- Reads the kinds of a comma separated list. Blank items do not count. -/
def readKinds (list : Text) : Except Text (List Kind) :=
  ((list.splitOn ',').filter fun item => !(Text.trim item).isEmpty).mapM fun item =>
    match Kind.read? item with
    | some kind => .ok kind
    | none => .error (Kind.unknownMessage item)

/-- The options of a scan, or what is wrong with them. -/
def scanOptions (look : Text → Lookup) (config kinds : Option Text) : Except Text ScanOptions :=
  match Settings.load look (layers config) with
  | .error e => .error ("cannot load configuration: ".toList ++ e.message)
  | .ok settings =>
    match kinds with
    | none => .ok settings.scanOptions
    | some list => (readKinds list).map fun order => { settings.scanOptions with order := order }

/-- The output for the report on a body. -/
def reportOutput (source : Text) (report : ScanReport) (format : Format) : Output :=
  let status := if report.hasErrors then 1 else 0
  match render report.document format with
  | some written => { status := status, stdout := written }
  | none =>
    { status := status
      stdout := report.toText
      stderr := report.errors.flatMap fun d => d.render source ++ ['\n'] }

/-- Classifies the lines of the body at a path. -/
def classify [PatternCompiler] (look : Text → Lookup) (path : Text) (format : Format)
    (config kinds : Option Text) : Output :=
  match look path with
  | .file source =>
    match scanOptions look config kinds with
    | .error message => failure message
    | .ok options => reportOutput source (scan options source) format
  | other => failure ("cannot read ".toList ++ path ++ ": ".toList ++ other.reason)

/-- The state of a record as a document. -/
def recordDocument (r : Record) : Document :=
  .ofFields
    ([("kind", .text r.kind.name), ("outcome", .text r.outcome.name)] ++
      Document.optional "error" (r.cause.map fun e => .text e.message) ++
      Document.optional "parsed" (r.payload.map Payload.document))

/-- The state of a record as lines of text. -/
def recordText (r : Record) : Text :=
  r.kind.name ++ [' '] ++ r.outcome.label ++ ['\n'] ++
    (r.cause.toList.flatMap fun e => e.message ++ ['\n']) ++
    (r.payload.toList.flatMap fun p => p.inspect ++ ['\n'])

/-- Reads one line as the kind of a name. -/
def parse [PatternCompiler] (kind line : Text) (format : Format) : Output :=
  match Kind.read? kind with
  | none => failure (Kind.unknownMessage kind)
  | some kind =>
    let (outcome, record) := (Record.new kind).parse line
    { status := if outcome = .error then 1 else 0
      stdout := (render (recordDocument record) format).getD (recordText record) }

/-- The list of the kinds and the block tags. -/
def listing : Text :=
  "Grammar kinds:\n\n".toList ++
    (Kind.grammars.flatMap fun k => "  ".toList ++ k.name ++ ['\n']) ++
    "\nBlock tags:\n\n".toList ++
    (BlockTag.all.flatMap fun tag => "  <".toList ++ tag.name ++ ">\n".toList)

/-- Does what a request asks for. -/
def answer [PatternCompiler] (look : Text → Lookup) : Request → Output
  | .classify path format config kinds => classify look path format config kinds
  | .parse kind line format => parse kind line format
  | .listKinds => { stdout := listing }
  | .help none => { stdout := programUsage }
  | .help (some verb) => { stdout := verb.usage }
  | .version => { stdout := programVersion }

/-- Runs a command line. -/
def run [PatternCompiler] (look : Text → Lookup) (arguments : List Text) : Output :=
  match Request.read arguments with
  | .ok request => answer look request
  | .error e => { status := 2, stderr := e.message }

/-- The paths that a command line may look at. -/
def paths (arguments : List Text) : List Text :=
  match Request.read arguments with
  | .ok (.classify path _ config _) =>
    path :: (localSettings :: config.toList).flatMap Settings.candidates
  | _ => []

end MacroBody.Command
