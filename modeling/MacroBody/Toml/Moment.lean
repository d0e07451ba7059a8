import MacroBody.Text.Basic

/-!
# Dates and times

A settings document may hold a date, a time of day, or both together, and then also how far local
time is ahead of universal time. Reading checks that the day exists in its month, and allows a second
for a leap second. Writing gives the one form `1979-05-27T07:32:00.5Z`: the letters are capital, and
the fraction of a second has no zeros at its end.
-/

namespace MacroBody.Toml

/-- A day of the calendar. -/
structure Date where
  year : Nat
  month : Nat
  day : Nat
  deriving DecidableEq, Repr

/-- A time of day. -/
structure Clock where
  hour : Nat
  minute : Nat
  second : Nat
  nanosecond : Nat
  deriving DecidableEq, Repr

/-- How local time differs from universal time: not at all, or by minutes. -/
inductive Offset
  | universal
  | ahead (minutes : Int)
  deriving DecidableEq, Repr

/-- A date, a time of day, or both. -/
inductive Moment
  | date (d : Date)
  | clock (c : Clock)
  | both (d : Date) (c : Clock) (offset : Option Offset)
  deriving DecidableEq, Repr

/-- The number of days of a month. -/
def daysIn (year month : Nat) : Nat :=
  let isLeap := year % 4 = 0 && (year % 100 ≠ 0 || year % 400 = 0)
  if month = 2 then (if isLeap then 29 else 28)
  else if month = 4 || month = 6 || month = 9 || month = 11 then 30
  else 31

/-- Reads a numeral of `width` digits. -/
def numeral? (width : Nat) (t : Text) : Option (Nat × Text) :=
  let digits := t.take width
  if digits.length = width && digits.all Char.isDigit then
    (Text.number? 10 digits).map (·, t.drop width)
  else none

/-- Reads a numeral of two digits that is less than `bound`. -/
def below? (bound : Nat) (t : Text) : Option (Nat × Text) :=
  (numeral? 2 t).filter (·.1 < bound)

/-- Reads a date. -/
def Date.read? (t : Text) : Option (Date × Text) := do
  let (year, t) ← numeral? 4 t
  let t ← Text.after? t ['-']
  let (month, t) ← below? 13 t
  let t ← Text.after? t ['-']
  let (day, t) ← numeral? 2 t
  if 1 ≤ month && 1 ≤ day && day ≤ daysIn year month then some (⟨year, month, day⟩, t) else none

/-- Reads the fraction of a second after its point, in nanoseconds; further digits do not count. -/
def fraction? (t : Text) : Option (Nat × Text) :=
  match t with
  | '.' :: rest =>
    let digits := rest.takeWhile Char.isDigit
    let nine := digits.take 9
    (Text.number? 10 (nine ++ List.replicate (9 - nine.length) '0')).bind fun n =>
      if digits.isEmpty then none else some (n, rest.dropWhile Char.isDigit)
  | _ => none

/-- Reads a time of day. -/
def Clock.read? (t : Text) : Option (Clock × Text) := do
  let (hour, t) ← below? 24 t
  let t ← Text.after? t [':']
  let (minute, t) ← below? 60 t
  let t ← Text.after? t [':']
  let (second, t) ← below? 61 t
  let (nanosecond, t) := (fraction? t).getD (0, t)
  some (⟨hour, minute, second, nanosecond⟩, t)

/-- Reads the difference to universal time. -/
def Offset.read? (t : Text) : Option (Offset × Text) :=
  let ahead := fun (sign : Int) (rest : Text) => do
    let (hour, rest) ← below? 24 rest
    let rest ← Text.after? rest [':']
    let (minute, rest) ← below? 60 rest
    some (.ahead (sign * (hour * 60 + minute)), rest)
  match t with
  | 'Z' :: rest | 'z' :: rest => some (.universal, rest)
  | '+' :: rest => ahead 1 rest
  | '-' :: rest => ahead (-1) rest
  | _ => none

/-- Reads a date, a time of day, or both with a `T` or a space between them. -/
def Moment.read? (t : Text) : Option (Moment × Text) :=
  match Date.read? t with
  | none => (Clock.read? t).map fun (c, rest) => (.clock c, rest)
  | some (d, rest) =>
    let time? :=
      match rest with
      | 'T' :: more | 't' :: more | ' ' :: more => Clock.read? more
      | _ => none
    match time? with
    | none => some (.date d, rest)
    | some (c, more) =>
      match Offset.read? more with
      | none => some (.both d c none, more)
      | some (offset, left) => some (.both d c (some offset), left)

/-- The numeral of `n` with at least `width` digits. -/
def digitsOf (width n : Nat) : Text :=
  Text.padLeft '0' width (Text.decimal n)

/-- The date as a text. -/
def Date.toText (d : Date) : Text :=
  digitsOf 4 d.year ++ ['-'] ++ digitsOf 2 d.month ++ ['-'] ++ digitsOf 2 d.day

/-- The time of day as a text. -/
def Clock.toText (c : Clock) : Text :=
  let fraction := ((digitsOf 9 c.nanosecond).reverse.dropWhile (· = '0')).reverse
  digitsOf 2 c.hour ++ [':'] ++ digitsOf 2 c.minute ++ [':'] ++ digitsOf 2 c.second ++
    (if fraction.isEmpty then [] else '.' :: fraction)

/-- The difference to universal time as a text. -/
def Offset.toText : Offset → Text
  | .universal => ['Z']
  | .ahead minutes =>
    let n := minutes.natAbs
    (if minutes < 0 then '-' else '+') :: (digitsOf 2 (n / 60) ++ [':'] ++ digitsOf 2 (n % 60))

/-- The moment as a text. -/
def Moment.toText : Moment → Text
  | .date d => d.toText
  | .clock c => c.toText
  | .both d c offset => d.toText ++ ['T'] ++ c.toText ++ (offset.map Offset.toText).getD []

end MacroBody.Toml
