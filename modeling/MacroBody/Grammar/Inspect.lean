import MacroBody.Grammar.Payload
import MacroBody.Text.Spelling

/-!
# Payloads written out

The content of a line as a reader sees it in a report: the kind of content, and its parts by name,
with every text between quotes.
-/

namespace MacroBody

/-- A text that starts with an upper case letter, for each word of a name with underscores. -/
def Text.camelCase (t : Text) : Text :=
  (t.splitOn '_').flatMap fun word =>
    match word with
    | [] => []
    | c :: rest => c.toUpper :: rest

/-- Texts between brackets, each quoted. -/
def Text.quotedList (items : List Text) : Text :=
  ['['] ++ Text.join ", ".toList (items.map Text.quoted) ++ [']']

/-- A value with named parts. -/
def Text.construct (name : String) (parts : List (String × Text)) : Text :=
  name.toList ++ " \x7b ".toList ++
    Text.join ", ".toList (parts.map fun (part, value) => part.toList ++ ": ".toList ++ value) ++
    " \x7d".toList

namespace Payload

/-- The parts of a payload by name. -/
def parts : Payload → Text
  | word w => Text.construct "Word" [("name", w.name.quoted)]
  | property p => Text.construct "Property" [("name", p.name.quoted), ("val", p.val.quoted)]
  | propertyAnyValue p =>
    Text.construct "Property" [("name", p.name.quoted), ("val", p.val.quoted)]
  | propertyList p =>
    Text.construct "PropertyList" [("name", p.name.quoted), ("vals", Text.quotedList p.vals)]
  | blockTag b =>
    Text.construct "BlockTagLine" [("tag", b.tag.name.camelCase), ("enter", Text.truth b.enter)]
  | limitation l =>
    Text.construct "Limitation"
      [("keyword", l.keyword.name.camelCase), ("name", l.name.quoted), ("val", l.val.quoted)]
  | addressRange r =>
    Text.construct "AddressRange"
      [("min", Text.decimal r.min.toNat), ("max", Text.decimal r.max.toNat),
        ("tags", Text.quotedList r.tags), ("bus_interfaces", Text.quotedList r.busInterfaces),
        ("inverse", Text.truth r.inverse)]
  | patternLiteral p => Text.construct "PatternLiteral" [("pattern", p.pattern.quoted)]
  | methodCall m =>
    Text.construct "MethodCall"
      [("method_name", m.methodName.quoted), ("arguments", Text.quotedList m.arguments)]

/-- A payload written out: its kind, and its parts. -/
def inspect (p : Payload) : Text :=
  p.kind.name.camelCase ++ ['('] ++ p.parts ++ [')']

end Payload

end MacroBody
