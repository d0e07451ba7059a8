import MacroBody.Document.Basic
import MacroBody.Document.Yaml.Scalar

/-!
# Documents as YAML

A document in block form. The fields of an object stand under one another, and the fields of an inner
object two spaces further in. The items of a list stand behind hyphens, as far in as the field that
holds the list. Empty lists and objects are written as bare brackets.
-/

namespace MacroBody.Document

/-- Rows under one another, the first of which starts where the writer stands. -/
def yamlRows (indent : Nat) (rows : List Text) : Text :=
  Text.join (List.replicate indent ' ') rows

/-- The column of a value that stands below the name of its field. -/
def below? (indent : Nat) : Document → Option Nat
  | .list (_ :: _) => some indent
  | .object (_ :: _) => some (indent + 2)
  | _ => none

mutual

/-- A document written from the given column on, to the end of its last line. -/
def yamlAt (indent : Nat) : Document → Text
  | .bool b => Text.truth b ++ ['\n']
  | .number n => Text.decimal n ++ ['\n']
  | .text t => Yaml.scalarLine indent t
  | .list items =>
    if items.isEmpty then "[]\n".toList else yamlRows indent (yamlItems indent items)
  | .object fields =>
    if fields.isEmpty then "\x7b\x7d\n".toList else yamlRows indent (yamlFields indent fields)

/-- The rows of the items of a list. -/
def yamlItems (indent : Nat) : List Document → List Text
  | [] => []
  | item :: rest => ("- ".toList ++ yamlAt (indent + 2) item) :: yamlItems indent rest

/-- The rows of the fields of an object. What does not fit on the line of its name follows below. -/
def yamlFields (indent : Nat) : List (Text × Document) → List Text
  | [] => []
  | (name, value) :: rest =>
    let row :=
      match value.below? indent with
      | some column =>
        name ++ ":\n".toList ++ List.replicate column ' ' ++ yamlAt column value
      | none => name ++ ": ".toList ++ yamlAt (indent + 2) value
    row :: yamlFields indent rest

end

/-- The document as YAML. -/
def toYaml (d : Document) : Text :=
  yamlAt 0 d

end MacroBody.Document
