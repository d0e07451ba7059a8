import MacroBody.Scan
import MacroBody.Settings.Tree
import MacroBody.Text.Spelling

/-!
# Reading settings off a tree

The tree of settings has a section for the order of the kinds and one for scanning. A section is a
table with its fields, or a list of their values. Texts and truth values are taken from any value that
can be read as one; whatever does not fit is an error that says what was found and what was expected.
-/

namespace MacroBody

/-- The causes for which settings are refused. -/
inductive SettingsError
  /-- The key of an override is no path. -/
  | badKey
  /-- A file that has to be there is missing or is no file. -/
  | unreadable (name : Text)
  /-- A file is no settings document. -/
  | malformed (name : Text)
  /-- A value cannot be read as what its key needs. -/
  | wrongType (found expected : Text) (key : Text) (origin : Option Text)
  /-- Anything else that is wrong with a section. -/
  | invalid (text : Text)
  deriving DecidableEq, Repr

namespace SettingsError

/-- The wording of a cause. -/
def message : SettingsError → Text
  | badKey => "invalid key".toList
  | unreadable name => "configuration file \"".toList ++ name ++ "\" not found".toList
  | malformed name => "cannot parse ".toList ++ name
  | wrongType found expected key origin =>
    "invalid type: ".toList ++ found ++ ", expected ".toList ++ expected ++ " for key `".toList ++
      key ++ "`".toList ++
      match origin with
      | some file => " in ".toList ++ file
      | none => []
  | invalid text => text

end SettingsError

/-- The decimal numeral of an integer. -/
def Text.integer (n : Int) : Text :=
  if n < 0 then '-' :: Text.decimal n.natAbs else Text.decimal n.natAbs

namespace Scalar

/-- What a value is, for an error. -/
def describe : Scalar → Text
  | nil => "unit value".toList
  | boolean b => "boolean `".toList ++ Text.truth b ++ "`".toList
  | integer n => "integer `".toList ++ Text.integer n ++ "`".toList
  | float f =>
    let t := f.toText
    "floating point `".toList ++ t ++ (if t.contains '.' then [] else ".0".toList) ++ "`".toList
  | text t => "string ".toList ++ t.quoted

end Scalar

namespace Setting

/-- What a setting is, for an error. -/
def describe : Setting → Text
  | leaf value _ => value.describe
  | list _ _ => "sequence".toList
  | table _ => "map".toList

/-- The file a setting came from. -/
def origin : Setting → Option Text
  | leaf _ origin => origin
  | list _ origin => origin
  | table _ => none

/-- The texts that stand for a truth value. -/
def truthOf? (t : Text) : Option Bool :=
  match String.ofList t with
  | "1" | "true" | "on" | "yes" => some true
  | "0" | "false" | "off" | "no" => some false
  | _ => none

/-- The setting of `key` as a truth value. -/
def toBool (key : Text) (s : Setting) : Except SettingsError Bool :=
  let refuse := fun found : Text =>
    Except.error (.wrongType found "a boolean".toList key s.origin)
  match s with
  | leaf (.boolean b) _ => .ok b
  | leaf (.integer n) _ => .ok (n ≠ 0)
  | leaf (.float f) _ => .ok (!f.isZero)
  | leaf (.text t) _ =>
    match truthOf? t.toLower with
    | some b => .ok b
    | none => refuse (Scalar.text t.toLower).describe
  | other => refuse other.describe

/-- The setting of `key` as a text. -/
def toText (key : Text) (s : Setting) : Except SettingsError Text :=
  match s with
  | leaf (.text t) _ => .ok t
  | leaf (.boolean b) _ => .ok (Text.truth b)
  | leaf (.integer n) _ => .ok (Text.integer n)
  | leaf (.float f) _ => .ok f.toText
  | other => .error (.wrongType other.describe "a string".toList key s.origin)

/-- The kind that a text names, without regard to case. -/
def kindNamed (name : Text) : Except SettingsError Kind :=
  match Kind.ofName? name.toLower with
  | some k => .ok k
  | none =>
    .error (.invalid ("enum ParserKind does not have variant constructor ".toList ++ name))

/-- The kind that a setting names: by its text, or by the one key of a table. -/
def toKind : Setting → Except SettingsError Kind
  | leaf (.text t) _ => kindNamed t
  | table [(key, _)] => kindNamed key
  | _ =>
    .error (.invalid ("value of enum ParserKind should be represented by either string or table " ++
      "with exactly one key").toList)

/-- The kinds that a setting lists. -/
def toKinds : Setting → Except SettingsError (List Kind)
  | list items _ => items.mapM toKind
  | other =>
    .error (.invalid ("invalid type: ".toList ++ other.describe ++ ", expected a sequence".toList))

/-- A field of a section and the key under which errors name it. -/
def field (sectionName structName : Text) (fields : List Text) (index : Nat) (s : Setting) :
    Except SettingsError (Text × Setting) :=
  let name := (fields.drop index).head?.getD []
  match s with
  | table entries =>
    match entries.lookup name with
    | some value => .ok (sectionName ++ ['.'] ++ name, value)
    | none => .error (.invalid ("missing field `".toList ++ name ++ "`".toList))
  | list items _ =>
    match (items.drop index).head? with
    | some value => .ok (sectionName ++ ['['] ++ Text.decimal index ++ [']'], value)
    | none =>
      .error (.invalid ("invalid length ".toList ++ Text.decimal index ++
        ", expected struct ".toList ++ structName ++ " with ".toList ++
        Text.decimal fields.length ++
        (if fields.length = 1 then " element" else " elements").toList))
  | other =>
    .error (.invalid ("invalid type: ".toList ++ other.describe ++ ", expected struct ".toList ++
      structName))

end Setting

end MacroBody
