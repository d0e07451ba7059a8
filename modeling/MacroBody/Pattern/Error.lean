import MacroBody.Text.Basic

/-!
# Why a text is no pattern

The causes for which a text is refused as a pattern, and their wording.
-/

namespace MacroBody.Pattern

/-- The causes for which a text is refused as a pattern. -/
inductive Fault
  | repetitionMissing
  | repetitionCountEmpty
  | repetitionCountInvalid
  | repetitionCountUnclosed
  | decimalInvalid
  | groupUnclosed
  | groupUnopened
  | groupNameUnclosed
  | groupNameEmpty
  | groupNameInvalid
  | groupNameDuplicate
  | flagUnrecognized
  | flagDuplicate
  | flagNegationDangling
  | flagNegationRepeated
  | flagMissing
  | classUnclosed
  | classRangeInvalid
  | classRangeLiteral
  | classEscapeInvalid
  | escapeUnfinished
  | escapeUnrecognized
  | hexEmpty
  | hexInvalid
  | hexInvalidDigit
  | backreference
  | lookAround
  | boundaryUnclosed
  | boundaryUnrecognized
  | boundaryOrCountUnclosed
  | propertyClassInvalid
  | propertyNotFound
  | propertyValueNotFound
  | unicodeNotAllowed
  | invalidUtf8
  | nestedTooDeep
  | tooLarge
  deriving DecidableEq, Repr

/-- Groups and classes may be nested this deep. -/
def nestLimit : Nat := 250

/-- A pattern may take this many bytes when it is laid out for matching. -/
def sizeLimit : Nat := 10485760

namespace Fault

/-- The wording of a cause. -/
def text : Fault → String
  | repetitionMissing => "repetition operator missing expression"
  | repetitionCountEmpty => "repetition quantifier expects a valid decimal"
  | repetitionCountInvalid => "invalid repetition count range, the start must be <= the end"
  | repetitionCountUnclosed => "unclosed counted repetition"
  | decimalInvalid => "decimal literal invalid"
  | groupUnclosed => "unclosed group"
  | groupUnopened => "unopened group"
  | groupNameUnclosed => "unclosed capture group name"
  | groupNameEmpty => "empty capture group name"
  | groupNameInvalid => "invalid capture group character"
  | groupNameDuplicate => "duplicate capture group name"
  | flagUnrecognized => "unrecognized flag"
  | flagDuplicate => "duplicate flag"
  | flagNegationDangling => "dangling flag negation operator"
  | flagNegationRepeated => "flag negation operator repeated"
  | flagMissing => "expected flag but got end of regex"
  | classUnclosed => "unclosed character class"
  | classRangeInvalid => "invalid character class range, the start must be <= the end"
  | classRangeLiteral => "invalid range boundary, must be a literal"
  | classEscapeInvalid => "invalid escape sequence found in character class"
  | escapeUnfinished => "incomplete escape sequence, reached end of pattern prematurely"
  | escapeUnrecognized => "unrecognized escape sequence"
  | hexEmpty => "hexadecimal literal empty"
  | hexInvalid => "hexadecimal literal is not a Unicode scalar value"
  | hexInvalidDigit => "invalid hexadecimal digit"
  | backreference => "backreferences are not supported"
  | lookAround => "look-around, including look-ahead and look-behind, is not supported"
  | boundaryUnclosed =>
    "special word boundary assertion is either unclosed or contains an invalid character"
  | boundaryUnrecognized =>
    "unrecognized special word boundary assertion, valid choices are: start, end, start-half " ++
      "or end-half"
  | boundaryOrCountUnclosed =>
    "found either the beginning of a special word boundary or a bounded repetition on a \\b with " ++
      "an opening brace, but no closing brace"
  | propertyClassInvalid => "invalid Unicode character class"
  | propertyNotFound => "Unicode property not found"
  | propertyValueNotFound => "Unicode property value not found"
  | unicodeNotAllowed => "Unicode not allowed here"
  | invalidUtf8 => "pattern can match invalid UTF-8"
  | nestedTooDeep => "exceed the maximum number of nested parentheses/brackets (250)"
  | tooLarge => "Compiled regex exceeds size limit of 10485760 bytes."

/-- The report on a text that is refused for the given cause. What is found while reading the text is
told below it; a pattern that is merely too large is not shown again. The row that marks the place of
the fault is left out. -/
def report (fault : Fault) (pattern : Text) : Text :=
  match fault with
  | tooLarge => fault.text.toList
  | _ =>
    "regex parse error:\n".toList ++
      ("    ".toList ++ pattern ++ "\nerror: ".toList ++ fault.text.toList)

end Fault

end MacroBody.Pattern
