import MacroBody.Number.Binary64

/-!
# What a bare YAML scalar is read as

A reader takes a scalar without quotes for a null, a truth value or a number if it looks like one.
A text that looks so has to be quoted to stay a text.
-/

namespace MacroBody.Yaml

/-- Whether a bare scalar is read as null. -/
def isNull (t : Text) : Bool :=
  ["", "null", "Null", "NULL", "~"].any fun s => s.toList = t

/-- Whether a bare scalar is read as a truth value. -/
def isBoolean (t : Text) : Bool :=
  ["true", "True", "TRUE", "false", "False", "FALSE"].any fun s => s.toList = t

/-- Whether a text is an optional sign and two or more digits, the first a zero. Such a text is a
number to some readers only. -/
def isPaddedNumber (t : Text) : Bool :=
  let digits :=
    match t with
    | '-' :: rest => rest
    | '+' :: rest => rest
    | _ => t
  match digits with
  | '0' :: more => !more.isEmpty && more.all Char.isDigit
  | _ => false

/-- The radix that stands after a zero, and the digits behind it. -/
def radix? : Text → Option (Nat × Text)
  | '0' :: 'x' :: digits => some (16, digits)
  | '0' :: 'o' :: digits => some (8, digits)
  | '0' :: 'b' :: digits => some (2, digits)
  | _ => none

/-- Whether a text of digits denotes a number that does not exceed `limit`. -/
def isNumberUpTo (limit radix : Nat) (digits : Text) : Bool :=
  match Text.number? radix (digits.map Char.toLower) with
  | some n => n ≤ limit
  | none => false

/-- Whether a bare scalar is read as an integer with a radix. -/
def isRadixInteger (t : Text) : Bool :=
  let (limit, body) :=
    match t with
    | '-' :: rest => (Nat.pow 2 127, rest)
    | '+' :: rest => (Nat.pow 2 128 - 1, rest)
    | _ => (Nat.pow 2 128 - 1, t)
  match radix? body with
  | some (radix, digits) => isNumberUpTo limit radix digits
  | none => false

/-- The exponent after a mantissa, if what is there is none or a proper one. -/
def exponent? : Text → Option Int
  | [] => some 0
  | mark :: rest =>
    if mark = 'e' || mark = 'E' then
      match rest with
      | '-' :: digits => (Text.number? 10 digits).map fun n => -(n : Int)
      | '+' :: digits => (Text.number? 10 digits).map fun n => (n : Int)
      | digits => (Text.number? 10 digits).map fun n => (n : Int)
    else none

/-- The floating point number that decimal digits, with a point and an exponent if need be, denote. -/
def decimal? (t : Text) : Option Binary64 :=
  let whole := t.takeWhile Char.isDigit
  let (fraction, rest) :=
    match t.dropWhile Char.isDigit with
    | '.' :: more => (more.takeWhile Char.isDigit, more.dropWhile Char.isDigit)
    | rest => ([], rest)
  match Text.number? 10 (whole ++ fraction), exponent? rest with
  | some n, some e => some (Binary64.ofDecimal false n (e - fraction.length))
  | _, _ => none

/-- Whether a bare scalar is read as a number in decimal notation. -/
def isDecimal (t : Text) : Bool :=
  let body :=
    match t with
    | '-' :: rest => rest
    | '+' :: rest => rest
    | _ => t
  match decimal? body with
  | some f => f.isFinite
  | none => false

/-- Whether a bare scalar is read as an infinity or as no number. -/
def isSpecialNumber (t : Text) : Bool :=
  [".inf", ".Inf", ".INF", "+.inf", "+.Inf", "+.INF", "-.inf", "-.Inf", "-.INF", ".nan", ".NaN",
    ".NAN"].any fun s => s.toList = t

/-- Whether a bare scalar is, to some reader, not a text. -/
def isAmbiguous (t : Text) : Bool :=
  isNull t || isBoolean t || isPaddedNumber t || isRadixInteger t || isDecimal t ||
    isSpecialNumber t

end MacroBody.Yaml
