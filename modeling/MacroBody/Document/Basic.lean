import MacroBody.Scan

/-!
# Documents

The tree form in which results are handed out: numbers, texts, lists and objects whose fields have a
fixed order. A field that has nothing to say is left out.
-/

namespace MacroBody

/-- A result as a tree. -/
inductive Document
  | bool (value : Bool)
  | number (value : Nat)
  | text (value : Text)
  | list (items : List Document)
  | object (fields : List (Text × Document))

namespace Document

/-- An object with the given fields. -/
def ofFields (fields : List (String × Document)) : Document :=
  .object (fields.map fun (name, value) => (name.toList, value))

/-- A list of texts. -/
def texts (items : List Text) : Document :=
  .list (items.map .text)

/-- A field that is left out if there is no value. -/
def optional (name : String) (value : Option Document) : List (String × Document) :=
  match value with
  | some value => [(name, value)]
  | none => []

end Document

/-- The fields of an address range. -/
def AddressRange.fields (r : AddressRange) : List (String × Document) :=
  [("min", .number r.min.toNat), ("max", .number r.max.toNat), ("tags", .texts r.tags),
    ("bus_interfaces", .texts r.busInterfaces), ("inverse", .bool r.inverse)]

/-- The fields of a payload, without its kind. -/
def Payload.fields : Payload → List (String × Document)
  | .word w => [("name", .text w.name)]
  | .property p => [("name", .text p.name), ("val", .text p.val)]
  | .propertyAnyValue p => [("name", .text p.name), ("val", .text p.val)]
  | .propertyList p => [("name", .text p.name), ("vals", .texts p.vals)]
  | .blockTag b => [("tag", .text b.tag.name), ("enter", .bool b.enter)]
  | .limitation l =>
    [("keyword", .text l.keyword.name), ("name", .text l.name), ("val", .text l.val)]
  | .addressRange r => r.fields
  | .patternLiteral p => [("pattern", .text p.pattern)]
  | .methodCall m => [("method_name", .text m.methodName), ("arguments", .texts m.arguments)]

/-- A payload as a document: its kind, then its fields. -/
def Payload.document (p : Payload) : Document :=
  .ofFields (("kind", .text p.kind.name) :: p.fields)

/-- A diagnostic as a document. -/
def Diagnostic.document (d : Diagnostic) : Document :=
  .ofFields [("line", .number d.line), ("message", .text d.message)]

/-- The report of a line as a document. -/
def LineReport.document (r : LineReport) : Document :=
  .ofFields
    ([("line", .number r.line), ("text", .text r.text), ("kind", .text r.kind.name),
        ("outcome", .text r.outcome.name)] ++
      Document.optional "error" (r.error.map .text) ++
      Document.optional "parsed" (r.payload.map Payload.document) ++
      if r.scope.isEmpty then [] else [("scope", .texts (r.scope.map BlockTag.name))])

/-- The report of a scan as a document. -/
def ScanReport.document (r : ScanReport) : Document :=
  .ofFields
    (("lines", .list (r.lines.map LineReport.document)) ::
      if r.trailing.isEmpty then [] else [("trailing", .list (r.trailing.map Diagnostic.document))])

end MacroBody
