import MacroBody.Text.Basic

/-!
# Why a line is rejected

A grammar that claims a line and then finds it malformed says why. Each cause carries the fragment
of the line it is about, and `GrammarError.message` is the one place where causes are worded.
-/

namespace MacroBody

/-- The causes for which a claimed line is rejected. -/
inductive GrammarError
  /-- A property value is not a single token. -/
  | expectedValue (got : Text)
  /-- The values of a property list are not a comma separated list of tokens. -/
  | expectedValueList (got : Text)
  /-- The content of the angle brackets is not a word with an optional slash before it. -/
  | malformedBlockTag (text : Text)
  /-- The word in the angle brackets is no block tag. -/
  | unknownBlockTag (name : Text)
  /-- The line starts like a limitation and is none. -/
  | badLimitation (line : Text)
  /-- The keyword is not followed by two bounds. -/
  | malformedRange (text : Text)
  /-- A bound is not an unsigned number. -/
  | nonNumeric (token : Text)
  /-- The first bound is above the second. -/
  | reversedRange (first last : UInt64)
  /-- The bounds are followed by something that is no tag list. -/
  | malformedTags (text : Text)
  /-- The tags are followed by something that is no bus interface list. -/
  | malformedBusInterfaces (text : Text)
  /-- A bus interface is listed twice. -/
  | duplicateBusInterfaces (list : Text)
  /-- The quoted text is no pattern. -/
  | invalidPattern (pattern reason : Text)
  /-- A parenthesis is closed that was not opened; the text ends with it. -/
  | unexpectedCloseParen (upTo : Text)
  /-- A parenthesis or a quote is left open. -/
  | mismatchedDelimiters (text : Text)
  deriving DecidableEq, Repr

namespace GrammarError

/-- The wording of a cause. -/
def message : GrammarError → Text
  | expectedValue got => "expected <value> but got '".toList ++ got ++ "'".toList
  | expectedValueList got => "expected <value>[,<value>*] but got '".toList ++ got ++ "'".toList
  | malformedBlockTag text => "Malformed blocktag '".toList ++ text ++ "'".toList
  | unknownBlockTag name => "Unknown blocktag '".toList ++ name ++ "'".toList
  | badLimitation line =>
    "Bad syntax in limitation '".toList ++ line ++
      "', should be add|set|rm name : value".toList
  | malformedRange text =>
    "Malformed address range '".toList ++ text ++ "', should be start..end".toList
  | nonNumeric token => "Non-numeric value '".toList ++ token ++ "' in address range".toList
  | reversedRange first last =>
    "Reversed address range 0x".toList ++ Text.hex first.toNat ++ "..0x".toList ++
      Text.hex last.toNat
  | malformedTags text =>
    "Malformed tag list '".toList ++ text ++ "', should be (with|:|using) tag[, tag]*".toList
  | malformedBusInterfaces text =>
    "Malformed bus interface list '".toList ++ text ++
      "', should be (for|notfor) bif[, bif]*".toList
  | duplicateBusInterfaces list =>
    "Bus interface list '".toList ++ list ++ "' contains identical items".toList
  | invalidPattern pattern reason =>
    "Invalid string match pattern '".toList ++ pattern ++ "': ".toList ++ reason
  | unexpectedCloseParen upTo =>
    "unexpected close-parenthesis in '".toList ++ upTo ++ "'".toList
  | mismatchedDelimiters text =>
    "Mismatched parentheses or quotes in '".toList ++ text ++ "'".toList

end GrammarError

end MacroBody
