import MacroBody.Grammar.AddressRange
import MacroBody.Grammar.BlockTag
import MacroBody.Grammar.Limitation
import MacroBody.Grammar.MethodCall
import MacroBody.Grammar.PatternLiteral
import MacroBody.Grammar.Property
import MacroBody.Grammar.Word

/-!
# Payloads

The value that a line was read as, whatever its kind, and the one function that reads a line as a
given kind.
-/

namespace MacroBody

/-- What a line was read as. -/
inductive Payload
  | word (value : Word)
  | property (value : Property)
  | propertyAnyValue (value : Property)
  | propertyList (value : PropertyList)
  | blockTag (value : BlockTagLine)
  | limitation (value : Limitation)
  | addressRange (value : AddressRange)
  | patternLiteral (value : PatternLiteral)
  | methodCall (value : MethodCall)
  deriving DecidableEq, Repr

namespace Payload

/-- The kind of line that has this payload. -/
def kind : Payload → Kind
  | word _ => .word
  | property _ => .property
  | propertyAnyValue _ => .propertyAnyValue
  | propertyList _ => .propertyList
  | blockTag _ => .blockTag
  | limitation _ => .limitation
  | addressRange _ => .addressRange
  | patternLiteral _ => .patternLiteral
  | methodCall _ => .methodCall

/-- The word, if the line is one. -/
def word? : Payload → Option Word
  | word value => some value
  | _ => none

/-- The property, if the line is one with a single value. -/
def property? : Payload → Option Property
  | property value => some value
  | propertyAnyValue value => some value
  | _ => none

/-- The property list, if the line is one. -/
def propertyList? : Payload → Option PropertyList
  | propertyList value => some value
  | _ => none

/-- The block tag, if the line is one. -/
def blockTag? : Payload → Option BlockTagLine
  | blockTag value => some value
  | _ => none

/-- The limitation, if the line is one. -/
def limitation? : Payload → Option Limitation
  | limitation value => some value
  | _ => none

/-- The address range, if the line is one. -/
def addressRange? : Payload → Option AddressRange
  | addressRange value => some value
  | _ => none

/-- The pattern literal, if the line is one. -/
def patternLiteral? : Payload → Option PatternLiteral
  | patternLiteral value => some value
  | _ => none

/-- The method call, if the line is one. -/
def methodCall? : Payload → Option MethodCall
  | methodCall value => some value
  | _ => none

end Payload

/-- Reads a line as the given kind. The unknown kind has no grammar and never matches. -/
def Kind.read [PatternCompiler] (kind : Kind) (line : Text) : Verdict Payload :=
  match kind with
  | .unknown => .noMatch
  | .word => (Word.read line).map .word
  | .property => (Property.read line).map .property
  | .propertyAnyValue => (Property.readAnyValue line).map .propertyAnyValue
  | .propertyList => (PropertyList.read line).map .propertyList
  | .blockTag => (BlockTagLine.read line).map .blockTag
  | .limitation => (Limitation.read line).map .limitation
  | .addressRange => (AddressRange.read line).map .addressRange
  | .patternLiteral => (PatternLiteral.read line).map .patternLiteral
  | .methodCall => (MethodCall.read line).map .methodCall

/-- What is read as a kind has that kind. -/
theorem Kind.kind_of_read [PatternCompiler] {kind : Kind} {line : Text} {p : Payload}
    (h : kind.read line = .accepted p) : p.kind = kind := by
  have key : ∀ {α : Type} {f : α → Payload} {v : Verdict α},
      v.map f = .accepted p → ∃ a, f a = p := by
    intro α f v hv
    cases v with
    | noMatch => cases hv
    | rejected e => cases hv
    | accepted a => exact ⟨a, by simpa [Verdict.map] using hv⟩
  cases kind with
  | unknown => cases h
  | _ =>
    obtain ⟨a, rfl⟩ := key h
    rfl

end MacroBody
