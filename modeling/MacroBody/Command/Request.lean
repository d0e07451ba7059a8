import MacroBody.Command.Usage

/-!
# Requests

What the arguments of the command line ask for. Arguments are taken one after the other, and the first
one that is wrong or that asks for help decides. An option is written `--name value`, `--name=value`,
`-n value`, `-nvalue` or `-n=value`; after `--` nothing is an option.
-/

namespace MacroBody

/-- The ways in which arguments can be wrong. -/
inductive UsageError
  | noCommand
  | unknownCommand (name : Text)
  | unknownOption (argument : Text)
  /-- There is one argument too many. -/
  | surplus (argument : Text)
  /-- A command needs more arguments. -/
  | incomplete (verb : Verb)
  | missingValue (switch : Switch)
  | refusedValue (switch : Switch) (value : Text)
  | repeated (switch : Switch)
  deriving DecidableEq, Repr

namespace UsageError

/-- What is wrong, in words. -/
def describe : UsageError → Text
  | noCommand => "a command is needed".toList
  | unknownCommand name => "unknown command ".toList ++ name
  | unknownOption argument => "unknown option ".toList ++ argument
  | surplus argument => "unexpected argument ".toList ++ argument
  | incomplete verb => "arguments missing after ".toList ++ verb.name
  | missingValue switch => "a value is needed for --".toList ++ switch.name
  | refusedValue switch value =>
    "invalid value ".toList ++ value ++ " for --".toList ++ switch.name
  | repeated switch => "given more than once: --".toList ++ switch.name

/-- The message for the user. -/
def message (e : UsageError) : Text :=
  match e with
  | noCommand => programUsage
  | _ => "error: ".toList ++ e.describe ++ "\n\nFor more information, try '--help'.\n".toList

end UsageError

/-- One argument by itself. -/
inductive Argument
  /-- Asks for help. -/
  | help
  /-- Ends the options. -/
  | separator
  /-- Stands in a place. -/
  | place (value : Text)
  /-- Names an option, with the value that is attached to it. -/
  | switch (switch : Switch) (attached : Option Text)

namespace Argument

/-- Whether an argument is written like an option. -/
def isOption : Text → Bool
  | '-' :: _ :: _ => true
  | _ => false

/-- The value behind an equals sign. -/
def afterEquals? : Text → Option Text
  | '=' :: value => some value
  | _ => none

/-- The value attached to the letter of an option. -/
def attached? (body : Text) : Option Text :=
  if body.isEmpty then none else some ((afterEquals? body).getD body)

/-- Reads an argument with a long name. -/
def readLong (verb : Verb) (body : Text) : Except UsageError Argument :=
  let name := body.takeWhile (· ≠ '=')
  let value := afterEquals? (body.dropWhile (· ≠ '='))
  match verb.switches.find? fun s => s.name = name with
  | some s => .ok (.switch s value)
  | none =>
    if name = "help".toList && value.isNone then .ok .help
    else .error (.unknownOption ("--".toList ++ body))

/-- Reads an argument with a letter. -/
def readShort (verb : Verb) (letter : Char) (body : Text) : Except UsageError Argument :=
  match verb.switches.find? fun s => s.letter = letter with
  | some s => .ok (.switch s (attached? body))
  | none =>
    if letter = 'h' then .ok .help else .error (.unknownOption ('-' :: letter :: body))

/-- Reads one argument of a command. -/
def read (verb : Verb) : Text → Except UsageError Argument
  | ['-', '-'] => .ok .separator
  | '-' :: '-' :: body => readLong verb body
  | '-' :: letter :: body => readShort verb letter body
  | value => .ok (.place value)

end Argument

/-- What has been gathered from the arguments of a command. -/
structure Gathered where
  values : List (Switch × Text) := []
  places : List Text := []
  deriving DecidableEq, Repr

namespace Gathered

/-- Adds the value of an option. -/
def set (g : Gathered) (s : Switch) (value : Text) : Except UsageError Gathered :=
  if !s.admits value then .error (.refusedValue s value)
  else if (g.values.lookup s).isSome then .error (.repeated s)
  else .ok { g with values := g.values ++ [(s, value)] }

/-- Adds an argument that stands in a place. -/
def add (verb : Verb) (g : Gathered) (value : Text) : Except UsageError Gathered :=
  if g.places.length < verb.places then .ok { g with places := g.places ++ [value] }
  else .error (.surplus value)

/-- Gathers the arguments of a command, or nothing if one of them asks for help. -/
def gather (verb : Verb) (g : Gathered) : List Text → Except UsageError (Option Gathered)
  | [] => .ok (some g)
  | argument :: rest =>
    match Argument.read verb argument with
    | .error e => .error e
    | .ok .help => .ok none
    | .ok .separator => (rest.foldlM (Gathered.add verb) g).map some
    | .ok (.place value) =>
      match g.add verb value with
      | .error e => .error e
      | .ok g => gather verb g rest
    | .ok (.switch s (some value)) =>
      match g.set s value with
      | .error e => .error e
      | .ok g => gather verb g rest
    | .ok (.switch s none) =>
      match rest with
      | [] => .error (.missingValue s)
      | value :: more =>
        if Argument.isOption value then .error (.missingValue s)
        else
          match g.set s value with
          | .error e => .error e
          | .ok g => gather verb g more

/-- The form in which the result is to be written. -/
def format (g : Gathered) : Format :=
  ((g.values.lookup .format).bind Format.ofName?).getD .text

end Gathered

/-- What the command line asks for. -/
inductive Request
  /-- Classify the lines of the body at a path. -/
  | classify (path : Text) (format : Format) (config kinds : Option Text)
  /-- Read one line as one kind. -/
  | parse (kind line : Text) (format : Format)
  | listKinds
  /-- Show the help on a command, or on all. -/
  | help (topic : Option Verb)
  | version
  deriving DecidableEq, Repr

namespace Request

/-- Reads the commands on which help is wanted. No command has commands of its own. -/
def readHelp : List Text → Except UsageError Request
  | [] => .ok (.help none)
  | name :: rest =>
    match Verb.ofName? name, rest with
    | some verb, [] => .ok (.help (some verb))
    | some _, inner :: _ => .error (.unknownCommand inner)
    | none, _ => .error (.unknownCommand name)

/-- The request of a command with its arguments. -/
def ofGathered (verb : Verb) (g : Gathered) : Except UsageError Request :=
  match verb, g.places with
  | .classify, [path] =>
    .ok (.classify path g.format (g.values.lookup .config) (g.values.lookup .kinds))
  | .parse, [kind, line] => .ok (.parse kind line g.format)
  | .listKinds, [] => .ok .listKinds
  | .help, [] => .ok (.help none)
  | _, _ => .error (.incomplete verb)

/-- Reads the arguments of a command. -/
def readVerb (verb : Verb) (arguments : List Text) : Except UsageError Request :=
  if verb = .help then readHelp arguments
  else
    match Gathered.gather verb {} arguments with
    | .error e => .error e
    | .ok none => .ok (.help (some verb))
    | .ok (some g) => ofGathered verb g

/-- Reads an argument in the place of a command. -/
def readOption : Text → Except UsageError Request
  | '-' :: 'h' :: _ => .ok (.help none)
  | '-' :: 'V' :: _ => .ok .version
  | argument =>
    if argument = "--help".toList then .ok (.help none)
    else if argument = "--version".toList then .ok .version
    else .error (.unknownCommand argument)

/-- Reads the arguments of the command line. -/
def read : List Text → Except UsageError Request
  | [] => .error .noCommand
  | first :: rest =>
    match Verb.ofName? first with
    | some verb => readVerb verb rest
    | none => readOption first

end Request

end MacroBody
