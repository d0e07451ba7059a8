import MacroBody.Grammar.Payload

/-!
# Records

A record holds what the last attempt to read a line left behind: the kind that was tried, the
outcome, the cause of a rejection and the payload. It is reused from line to line. Every attempt
starts from a cleared record, so nothing of an earlier line shows in a later result; only the kind
stays until it is set again.

A reading gives the caller its outcome, and leaves the record behind.
-/

namespace MacroBody

/-- What the last attempt to read a line left behind. -/
structure Record where
  kind : Kind := .unknown
  outcome : Outcome := .noMatch
  cause : Option GrammarError := none
  payload : Option Payload := none
  deriving DecidableEq, Repr

namespace Record

/-- A fresh record of the given kind. -/
def new (kind : Kind) : Record where
  kind := kind

/-- The record with its kind replaced. -/
def setKind (r : Record) (kind : Kind) : Record :=
  { r with kind := kind }

/-- The record with nothing but its kind. -/
def reset (r : Record) : Record :=
  { r with outcome := .noMatch, cause := none, payload := none }

/-- Notes a verdict. -/
def note (r : Record) (v : Verdict Payload) : Outcome × Record :=
  let r := { r with outcome := v.outcome }
  let r :=
    match v with
    | .noMatch => { r with payload := none }
    | .rejected cause => { r with cause := some cause }
    | .accepted payload => { r with payload := some payload }
  (r.outcome, r)

section

variable [PatternCompiler]

/-- Reads a line as the kind of the record. -/
def parse (r : Record) (line : Text) : Outcome × Record :=
  r.reset.note (r.kind.read line)

/-- Tries kinds on a line, one after the other, until one is decisive. -/
def tryKinds (r : Record) (line : Text) : List Kind → Outcome × Record
  | [] => (r.outcome, r.setKind .unknown)
  | kind :: rest =>
    let (outcome, r) := (r.setKind kind).parse line
    if outcome.isDecisive then (outcome, r) else r.tryKinds line rest

/-- Reads a line as the first of the kinds that is decisive on it. If none is, the kind is
unknown. -/
def tryParse (r : Record) (line : Text) (kinds : List Kind) : Outcome × Record :=
  r.reset.tryKinds line kinds

end

/-- The record without its payload; the outcome stays. -/
def withoutPayload (r : Record) : Record :=
  { r with payload := none }

/-- The wording of the cause, empty if the line was not rejected. -/
def errorText (r : Record) : Text :=
  match r.cause with
  | some cause => cause.message
  | none => []

/-- The block tag, if that was read. -/
def blockTag? (r : Record) : Option BlockTagLine :=
  r.payload.bind Payload.blockTag?

/-- The names of the readings that the payload offers, in a fixed order. -/
def views (r : Record) : List Text :=
  match r.payload with
  | none => []
  | some p =>
    [("word", p.word?.isSome), ("property", p.property?.isSome),
      ("property_list", p.propertyList?.isSome), ("block_tag", p.blockTag?.isSome),
      ("limitation", p.limitation?.isSome), ("address_range", p.addressRange?.isSome),
      ("pattern_literal", p.patternLiteral?.isSome), ("method_call", p.methodCall?.isSome)].filterMap
      fun (name, offered) => if offered then some name.toList else none

end Record

end MacroBody
