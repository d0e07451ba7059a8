import MacroBody.Text.Basic

/-!
# Commands and their options

The vocabulary of the command line: the commands, the options each of them takes, how many arguments
stand in fixed places, and the help that describes them.
-/

namespace MacroBody

/-- Lines under one another, each ended by a line end. -/
def Text.ofLines (lines : List String) : Text :=
  lines.flatMap fun line => line.toList ++ ['\n']

/-- The forms in which results are written. -/
inductive Format
  | text
  | json
  | yaml
  deriving DecidableEq, Repr, Inhabited

namespace Format

/-- The name of a form. -/
def name : Format → Text
  | text => "text".toList
  | json => "json".toList
  | yaml => "yaml".toList

/-- The form with exactly this name. -/
def ofName? (t : Text) : Option Format :=
  [text, json, yaml].find? fun f => f.name = t

/-- The name of a form names it. -/
@[simp]
theorem ofName?_name (f : Format) : ofName? f.name = some f := by
  cases f <;> decide

end Format

/-- The options; each takes a value. -/
inductive Switch
  | format
  | config
  | kinds
  deriving DecidableEq, Repr

namespace Switch

/-- The long name of an option. -/
def name : Switch → Text
  | format => "format".toList
  | config => "config".toList
  | kinds => "kinds".toList

/-- The letter of an option. -/
def letter : Switch → Char
  | format => 'f'
  | config => 'c'
  | kinds => 'k'

/-- Whether an option takes the value. -/
def admits (s : Switch) (value : Text) : Bool :=
  match s with
  | format => (Format.ofName? value).isSome
  | _ => true

end Switch

/-- The commands. -/
inductive Verb
  | classify
  | parse
  | listKinds
  | help
  deriving DecidableEq, Repr

namespace Verb

/-- The name of a command. -/
def name : Verb → Text
  | classify => "classify".toList
  | parse => "parse".toList
  | listKinds => "list-kinds".toList
  | help => "help".toList

/-- The command with exactly this name. -/
def ofName? (t : Text) : Option Verb :=
  [classify, parse, listKinds, help].find? fun v => v.name = t

/-- The name of a command names it. -/
@[simp]
theorem ofName?_name (v : Verb) : ofName? v.name = some v := by
  cases v <;> decide

/-- The options of a command. -/
def switches : Verb → List Switch
  | classify => [.format, .config, .kinds]
  | parse => [.format]
  | _ => []

/-- How many arguments of a command stand in fixed places. All of them are needed. -/
def places : Verb → Nat
  | classify => 1
  | parse => 2
  | _ => 0

/-- The lines of the help on a command. -/
def usageLines : Verb → List String
  | classify => [
      "Classify every line of a macro body",
      "",
      "Usage: macrogram classify [OPTIONS] <path>",
      "",
      "Arguments:",
      "  <path>  Path to the macro body",
      "",
      "Options:",
      "  -f, --format <format>  Output format: text, json or yaml [default: text] [possible values: text, json, yaml]",
      "  -c, --config <config>  TOML file layered over the defaults and ./macrogram.toml",
      "  -k, --kinds <kinds>    Comma separated grammar order, overriding the configuration",
      "  -h, --help             Print help"]
  | parse => [
      "Parse one line with one grammar",
      "",
      "Usage: macrogram parse [OPTIONS] <kind> <line>",
      "",
      "Arguments:",
      "  <kind>  Grammar kind (see list-kinds)",
      "  <line>  The line to parse",
      "",
      "Options:",
      "  -f, --format <format>  Output format: text, json or yaml [default: text] [possible values: text, json, yaml]",
      "  -h, --help             Print help"]
  | listKinds => [
      "List grammar kinds and block tags",
      "",
      "Usage: macrogram list-kinds",
      "",
      "Options:",
      "  -h, --help  Print help"]
  | help => [
      "Print this message or the help of the given subcommand(s)",
      "",
      "Usage: macrogram help [COMMAND]...",
      "",
      "Arguments:",
      "  [COMMAND]...  Print help for the subcommand(s)"]

/-- The help on a command. -/
def usage (v : Verb) : Text :=
  Text.ofLines v.usageLines

end Verb

/-- The help on all commands. -/
def programUsage : Text :=
  Text.ofLines [
    "Classify macro body lines against the line grammars",
    "",
    "Usage: macrogram <COMMAND>",
    "",
    "Commands:",
    "  classify    Classify every line of a macro body",
    "  parse       Parse one line with one grammar",
    "  list-kinds  List grammar kinds and block tags",
    "  help        Print this message or the help of the given subcommand(s)",
    "",
    "Options:",
    "  -h, --help     Print help",
    "  -V, --version  Print version"]

/-- The name and the version of the program. -/
def programVersion : Text :=
  "macrogram 0.1.0\n".toList

end MacroBody
