import MacroBody.Document.Basic

/-!
# Documents as JSON

A document written with every item and every field on a line of its own, two spaces further in than
what it belongs to. Quotes, backslashes and control characters of a text are escaped, and nothing
else.
-/

namespace MacroBody.Document

/-- The spaces at the start of a line. -/
def indentation (width : Nat) : Text :=
  List.replicate width ' '

/-- One character of a text. -/
def jsonChar (c : Char) : Text :=
  match c with
  | '"' => "\\\"".toList
  | '\\' => "\\\\".toList
  | '\x08' => "\\b".toList
  | '\x0c' => "\\f".toList
  | '\n' => "\\n".toList
  | '\r' => "\\r".toList
  | '\t' => "\\t".toList
  | _ =>
    if c.toNat < 0x20 then "\\u".toList ++ Text.padLeft '0' 4 (Text.hex c.toNat) else [c]

/-- A text between quotes. -/
def jsonText (t : Text) : Text :=
  ['"'] ++ t.flatMap jsonChar ++ ['"']

/-- Rows between brackets, or the bare brackets if there are none. -/
def jsonBlock (o c : Char) (indent : Nat) (rows : List Text) : Text :=
  if rows.isEmpty then [o, c]
  else [o, '\n'] ++ Text.join ",\n".toList rows ++ ['\n'] ++ indentation indent ++ [c]

mutual

/-- A document that starts on a line with the given indentation. -/
def jsonAt (indent : Nat) : Document → Text
  | .bool b => Text.truth b
  | .number n => Text.decimal n
  | .text t => jsonText t
  | .list items => jsonBlock '[' ']' indent (jsonItems (indent + 2) items)
  | .object fields => jsonBlock '\x7b' '\x7d' indent (jsonFields (indent + 2) fields)

/-- The rows of the items of a list. -/
def jsonItems (indent : Nat) : List Document → List Text
  | [] => []
  | item :: rest => (indentation indent ++ jsonAt indent item) :: jsonItems indent rest

/-- The rows of the fields of an object. -/
def jsonFields (indent : Nat) : List (Text × Document) → List Text
  | [] => []
  | (name, value) :: rest =>
    (indentation indent ++ jsonText name ++ ": ".toList ++ jsonAt indent value) ::
      jsonFields indent rest

end

/-- The document as JSON, ended by a line end. -/
def toJson (d : Document) : Text :=
  jsonAt 0 d ++ ['\n']

end MacroBody.Document
