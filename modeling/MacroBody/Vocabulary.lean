import MacroBody.Text.Basic

/-!
# Names

The closed vocabularies of a macro body: the kinds of line, the block tags and the limitation
keywords. Every member has one written name, and reading a name gives back the member it names.
-/

namespace MacroBody

/-- The kinds of line; `unknown` is the kind of a line that no grammar claims. -/
inductive Kind
  | unknown
  | word
  | property
  | propertyAnyValue
  | propertyList
  | blockTag
  | limitation
  | addressRange
  | patternLiteral
  | methodCall
  deriving DecidableEq, Repr, Inhabited

namespace Kind

/-- The kinds that have a grammar. -/
def grammars : List Kind :=
  [word, property, propertyAnyValue, propertyList, blockTag, limitation, addressRange,
    patternLiteral, methodCall]

/-- All kinds. -/
def all : List Kind :=
  unknown :: grammars

/-- The written name of a kind. -/
def name : Kind → Text
  | unknown => "unknown".toList
  | word => "word".toList
  | property => "property".toList
  | propertyAnyValue => "property_any_value".toList
  | propertyList => "property_list".toList
  | blockTag => "block_tag".toList
  | limitation => "limitation".toList
  | addressRange => "address_range".toList
  | patternLiteral => "pattern_literal".toList
  | methodCall => "method_call".toList

/-- The kind with exactly this name. -/
def ofName? (t : Text) : Option Kind :=
  all.find? fun k => k.name = t

/-- The kind a user means: surrounding blanks do not count, and a hyphen stands for an
underscore. -/
def read? (t : Text) : Option Kind :=
  ofName? (t.trim.map fun c => if c = '-' then '_' else c)

/-- The message for a text that names no kind. -/
def unknownMessage (t : Text) : Text :=
  "unknown grammar kind '".toList ++ t ++ "'".toList

/-- The order in which a line is tried against the grammars unless a caller chooses another. -/
def defaultOrder : List Kind :=
  [blockTag, addressRange, limitation, patternLiteral, methodCall, propertyList, property, word]

/-- The name of a kind names it. -/
@[simp]
theorem ofName?_name (k : Kind) : ofName? k.name = some k := by
  cases k <;> decide

end Kind

/-- The block tags. -/
inductive BlockTag
  | addressRanges
  | safeAddressRanges
  | unsafeAddressRanges
  | accessLimitations
  | limitations
  | defaultSlave
  | routing
  deriving DecidableEq, Repr, Inhabited

namespace BlockTag

/-- All block tags. -/
def all : List BlockTag :=
  [addressRanges, safeAddressRanges, unsafeAddressRanges, accessLimitations, limitations,
    defaultSlave, routing]

/-- The written name of a tag, as it stands between angle brackets. -/
def name : BlockTag → Text
  | addressRanges => "address_ranges".toList
  | safeAddressRanges => "safe_address_ranges".toList
  | unsafeAddressRanges => "unsafe_address_ranges".toList
  | accessLimitations => "access_limitations".toList
  | limitations => "limitations".toList
  | defaultSlave => "default_slave".toList
  | routing => "routing".toList

/-- The tag with exactly this name. -/
def ofName? (t : Text) : Option BlockTag :=
  all.find? fun tag => tag.name = t

/-- The name of a tag names it. -/
@[simp]
theorem ofName?_name (tag : BlockTag) : ofName? tag.name = some tag := by
  cases tag <;> decide

end BlockTag

/-- What a limitation does to the named limit. -/
inductive Keyword
  | add
  | set
  | rm
  deriving DecidableEq, Repr, Inhabited

namespace Keyword

/-- All limitation keywords. -/
def all : List Keyword :=
  [add, set, rm]

/-- The written form of a keyword. -/
def name : Keyword → Text
  | add => "add".toList
  | set => "set".toList
  | rm => "rm".toList

end Keyword

end MacroBody
