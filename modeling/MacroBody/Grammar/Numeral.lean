import MacroBody.Text.Basic

/-!
# Unsigned numerals

Address bounds are written in decimal, or in radix 16, 8 or 2 after `0x`, `0o` or `0b`. Underscores
may stand anywhere and letters may have either case. The value must fit into 64 bits: a numeral that
is too large is no numeral, so no value is ever wrapped.
-/

namespace MacroBody.Numeral

/-- The token without its underscores and with its ASCII letters in lower case. -/
def normalize (token : Text) : Text :=
  (token.filter (· ≠ '_')).map Char.toLower

/-- The radix that the normalized token announces, and its digits. -/
def radixAndDigits (normal : Text) : Nat × Text :=
  match normal with
  | '0' :: 'x' :: digits => (16, digits)
  | '0' :: 'o' :: digits => (8, digits)
  | '0' :: 'b' :: digits => (2, digits)
  | digits => (10, digits)

/-- The value of a token, whatever its size. -/
def value? (token : Text) : Option Nat :=
  let (radix, digits) := radixAndDigits (normalize token)
  digits.number? radix

/-- The value of a token, if it fits into 64 bits. -/
def read? (token : Text) : Option UInt64 :=
  match value? token with
  | some n => if h : n < UInt64.size then some (UInt64.ofNatLT n h) else none
  | none => none

end MacroBody.Numeral
