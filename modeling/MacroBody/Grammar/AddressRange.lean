import MacroBody.Grammar.Numeral
import MacroBody.Grammar.Verdict

/-!
# Address range lines

An address range line gives two bounds and, optionally, tags and the bus interfaces it applies to:

    [add ]range first..last [(with|:|using) tag, ... [(for|notfor) interface, ...]]

The keyword may be left out. With it the line is claimed and every later fault is an error; without
it a line is claimed as soon as it starts with two tokens and `..` between them.

The tag list may be followed by further text, and a blank before a comma lets the list end there:
`tagList?` therefore reads as many items as possible such that the text after them is empty or
starts with a blank.
-/

namespace MacroBody

/-- A range of addresses. -/
structure AddressRange where
  min : UInt64
  max : UInt64
  tags : List Text
  busInterfaces : List Text
  /-- Whether the range applies to every bus interface but the listed ones. -/
  inverse : Bool
  deriving DecidableEq, Repr

namespace AddressRange

/-- Whether `c` may stand between `add` and `range`. -/
def isJoint (c : Char) : Bool :=
  isBlank c || c = '_' || c = '-'

/-- What follows the word `range`, with or without `add` and a joint before it. -/
def afterRangeWord? (line : Text) : Option Text :=
  match line.trimStart.after? "add".toList with
  | some rest => Text.after? (rest.dropWhile isJoint) "range".toList
  | none => line.trimStart.after? "range".toList

/-- What follows the range keyword, which ends with a colon, a blank or the line. -/
def afterKeyword? (line : Text) : Option Text :=
  match afterRangeWord? line with
  | none => none
  | some rest =>
    let expression :=
      match rest.trimStart with
      | ':' :: text => some (Text.trimStart text)
      | text => if rest.atBlank then some text else none
    expression.filter Text.isOneLine

/-- The tokens on the two sides of `..`, and what follows the second. -/
def bounds? (expression : Text) : Option (Text × Text × Text) :=
  let (first, rest) := expression.trimStart.spanWord
  match rest.trimStart with
  | '.' :: '.' :: more =>
    let (last, tail) := (Text.trimStart more).spanWord
    if !first.isEmpty && !last.isEmpty && tail.isOneLine then some (first, last, tail) else none
  | _ => none

/-- The longest list of tokens at the start of comma separated segments such that the text after it
is empty or starts with a blank, and that text. -/
def tagList? : List Text → Option (List Text × Text)
  | [] => none
  | segment :: more =>
    let (tag, rest) := segment.trimStart.spanWord
    if tag.isEmpty then none
    else
      match if rest.all isBlank then tagList? more else none with
      | some (tags, tail) => some (tag :: tags, tail)
      | none =>
        let tail := Text.join [','] (rest :: more)
        if tail.atBlank then some ([tag], tail) else none

/-- The tags after `with`, `using` or a colon, and what follows them. -/
def tags? (tail : Text) : Option (List Text × Text) :=
  let list :=
    match tail.trimStart with
    | ':' :: text => some text
    | text => (text.afterWord? "with".toList).or (text.afterWord? "using".toList)
  list.bind fun text => tagList? (text.splitOn ',')

/-- The bus interface list after `for` or `notfor`, and whether it was `notfor`. -/
def busInterfaces? (rest : Text) : Option (Text × Bool) :=
  ((rest.trim.afterWord? "for".toList).map (·, false)).or
    ((rest.trim.afterWord? "notfor".toList).map (·, true))

/-- The number that a bound denotes. -/
def bound (token : Text) : Except GrammarError UInt64 :=
  match Numeral.read? token with
  | some n => .ok n
  | none => .error (.nonNumeric token)

/-- Adds the bus interfaces that the rest of the line lists. -/
def withBusInterfaces (range : AddressRange) (rest : Text) : Except GrammarError AddressRange :=
  if rest.trim.isEmpty then .ok range
  else
    match busInterfaces? rest with
    | none => .error (.malformedBusInterfaces rest.trim)
    | some (list, inverse) =>
      match list.tokens? with
      | none => .error (.malformedBusInterfaces rest.trim)
      | some names =>
        if names.Nodup then .ok { range with busInterfaces := names, inverse := inverse }
        else .error (.duplicateBusInterfaces list)

/-- Adds the tags and bus interfaces that stand after the bounds. -/
def withQualifiers (range : AddressRange) (tail : Text) : Except GrammarError AddressRange :=
  if tail.trim.isEmpty then .ok range
  else
    match tags? tail with
    | none => .error (.malformedTags tail.trim)
    | some (tags, rest) => withBusInterfaces { range with tags := tags } rest

/-- Reads the bounds, compares them and goes on with what follows them. -/
def ofBounds (first last tail : Text) : Except GrammarError AddressRange := do
  let min ← bound first
  let max ← bound last
  if max < min then .error (.reversedRange min max)
  else withQualifiers ⟨min, max, [], [], false⟩ tail

/-- Reads an address range line. -/
def read (line : Text) : Verdict AddressRange :=
  match afterKeyword? line with
  | some expression =>
    match bounds? expression with
    | some (first, last, tail) => .ofExcept (ofBounds first last tail)
    | none => .rejected (.malformedRange expression.trim)
  | none =>
    match bounds? line with
    | some (first, last, tail) => .ofExcept (ofBounds first last tail)
    | none => .noMatch

/-- A bound as two hexadecimal groups, the lower one of four digits and the upper one of at least
four. -/
def hexGroups (value : UInt64) : Text :=
  "0x".toList ++ Text.padLeft '0' 4 (Text.hex (value.toNat / 0x10000)) ++ ['_'] ++
    Text.padLeft '0' 4 (Text.hex (value.toNat % 0x10000))

/-- Both bounds, for generated code. -/
def formattedRange (range : AddressRange) : Text :=
  hexGroups range.min ++ ", ".toList ++ hexGroups range.max

/-- The tags in braces, for generated code. -/
def formattedTags (range : AddressRange) : Text :=
  ['\x7b'] ++ Text.join [';'] range.tags ++ ['\x7d']

/-- The quoted bus interfaces in braces, for generated code. -/
def formattedBusInterfaces (range : AddressRange) : Text :=
  ['\x7b'] ++ Text.join [';'] (range.busInterfaces.map fun name => ['"'] ++ name ++ ['"']) ++
    ['\x7d']

end AddressRange

end MacroBody
