import MacroBody.Character.Age
import MacroBody.Character.Boundary
import MacroBody.Pattern.Tree

/-!
# Property classes

A property class asks for a set of code points by name: a general category, a script, a binary
property, the edition that knows a character, or its class at a boundary. Names are compared
loosely, without case, blanks, hyphens, underscores and a leading `is`.
-/

namespace MacroBody.Pattern

/-- The properties that are known by name and have no set of their own. -/
def otherProperties : List String := [
  "nv", "numericvalue", "bmg", "bidimirroringglyph", "bpb", "bidipairedbracket", "cf",
  "casefolding", "dm", "decompositionmapping", "equideo", "equivalentunifiedideograph", "fcnfkc",
  "fcnfkcclosure", "lc", "lowercasemapping", "nfkccf", "nfkccasefold", "nfkcscf",
  "nfkcsimplecasefold", "scf", "simplecasefolding", "sfc", "slc", "simplelowercasemapping", "stc",
  "simpletitlecasemapping", "suc", "simpleuppercasemapping", "tc", "titlecasemapping", "uc",
  "uppercasemapping", "isc", "ocomment", "jsn", "jamoshortname", "na", "name", "na1",
  "unicode1name", "namealias", "blk", "block", "bc", "bidiclass", "bpt", "bidipairedbrackettype",
  "ccc", "canonicalcombiningclass", "dt", "decompositiontype", "ea", "eastasianwidth", "hst",
  "hangulsyllabletype", "incb", "indicconjunctbreak", "inpc", "indicpositionalcategory", "insc",
  "indicsyllabiccategory", "jg", "joininggroup", "jt", "joiningtype", "lb", "linebreak", "nfcqc",
  "nfcquickcheck", "nfdqc", "nfdquickcheck", "nfkcqc", "nfkcquickcheck", "nfkdqc",
  "nfkdquickcheck", "nt", "numerictype", "vo", "verticalorientation", "ce", "compositionexclusion",
  "compex", "fullcompositionexclusion", "cwkcf", "changeswhennfkccasefolded", "xonfc",
  "expandsonnfc", "xonfd", "expandsonnfd", "xonfkc", "expandsonnfkc", "xonfkd", "expandsonnfkd",
  "cjkaccountingnumeric", "kaccountingnumeric", "cjkothernumeric", "kothernumeric",
  "cjkprimarynumeric", "kprimarynumeric", "cjkcompatibilityvariant", "kcompatibilityvariant",
  "cjkiicore", "kiicore", "cjkirggsource", "kirggsource", "cjkirghsource", "kirghsource",
  "cjkirgjsource", "kirgjsource", "cjkirgkpsource", "kirgkpsource", "cjkirgksource", "kirgksource",
  "cjkirgmsource", "kirgmsource", "cjkirgssource", "kirgssource", "cjkirgtsource", "kirgtsource",
  "cjkirguksource", "kirguksource", "cjkirgusource", "kirgusource", "cjkirgvsource", "kirgvsource",
  "cjkrsunicode", "krsunicode", "unicoderadicalstroke", "urs", "kehcat", "kehcore", "kehdesc",
  "kehhg", "kehifao", "kehjsesh", "kehnomirror", "kehnorotate"]

/-- A property name without what does not count in it. -/
def normalizeName (name : Text) : String :=
  let afterIs :=
    match name with
    | 'i' :: 's' :: rest | 'i' :: 'S' :: rest | 'I' :: 's' :: rest | 'I' :: 'S' :: rest =>
      some rest
    | _ => none
  let keep := fun c : Char => c.toNat < 0x80 && c ≠ ' ' && c ≠ '_' && c ≠ '-'
  let normal := ((afterIs.getD name).filter keep).map Char.toLower
  if afterIs.isSome && normal = ['c'] then "isc" else String.ofList normal

/-- The set listed under a name. -/
def findNamed? (all : List (List String × CharSet)) (name : String) : Option CharSet :=
  (all.find? fun (names, _) => names.contains name).map (·.2)

/-- The code points of a script, or those used with it. -/
def scriptNamed? (extended : Bool) (name : String) : Option CharSet :=
  (Script.all.find? fun (names, _) => names.contains name).map fun (_, own, used) =>
    .table (if extended then used else own)

/-- Names of categories and scripts that no character has. -/
def emptyNames : List String :=
  ["cs", "surrogate", "zzzz", "unknown", "hrkt", "katakanaorhiragana"]

/-- The set that a property query asks for. -/
def PropertyQuery.resolve : PropertyQuery → Except Fault CharSet
  | .named name =>
    let normal := normalizeName name
    let binary :=
      if normal = "cf" || normal = "sc" || normal = "lc" then none
      else findNamed? Binary.all normal
    match (binary.or (findNamed? Category.all normal)).or (scriptNamed? false normal) with
    | some set => .ok set
    | none =>
      .error (if emptyNames.contains normal then .propertyValueNotFound else .propertyNotFound)
  | .valued property value =>
    let normal := normalizeName value
    let orMissing := fun set : Option CharSet =>
      match set with
      | some set => .ok set
      | none => .error .propertyValueNotFound
    match normalizeName property with
    | "gc" | "generalcategory" => orMissing (findNamed? Category.all normal)
    | "sc" | "script" => orMissing (scriptNamed? false normal)
    | "scx" | "scriptextensions" => orMissing (scriptNamed? true normal)
    | "age" => orMissing (Age.named? normal)
    | "gcb" | "graphemeclusterbreak" => orMissing (findNamed? Boundary.Cluster.all normal)
    | "wb" | "wordbreak" => orMissing (findNamed? Boundary.Word.all normal)
    | "sb" | "sentencebreak" => orMissing (findNamed? Boundary.Sentence.all normal)
    | other =>
      if otherProperties.contains other || (findNamed? Binary.all other).isSome then
        .error .propertyValueNotFound
      else .error .propertyNotFound

/-- The decimal digits. -/
def decimalNumbers : CharSet :=
  .table Category.decimalNumber

end MacroBody.Pattern
