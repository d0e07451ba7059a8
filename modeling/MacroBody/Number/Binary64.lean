import MacroBody.Text.Basic

/-!
# Floating point numbers

The numbers of the binary format with 64 bits, as exact integers: a finite number is a mantissa of at
most 53 bits times a power of two. A decimal is rounded to the nearest number, a tie to the even
mantissa; a number is written with the fewest digits that read back as the same number, in positional
form.
-/

namespace MacroBody

/-- A floating point number. A finite one is `mantissa * 2 ^ exponent`. -/
inductive Binary64
  | finite (negative : Bool) (mantissa : Nat) (exponent : Int)
  | infinite (negative : Bool)
  | nan
  deriving DecidableEq, Repr

namespace Binary64

/-- The least exponent. -/
def minExponent : Int := -1074

/-- The greatest exponent of a finite number. -/
def maxExponent : Int := 971

/-- `n * b ^ e` as a fraction. -/
def scale (n b : Nat) (e : Int) : Nat × Nat :=
  if 0 ≤ e then (n * Nat.pow b e.toNat, 1) else (n, Nat.pow b (-e).toNat)

/-- The quotient rounded to the nearest integer, a tie to the even one. -/
def roundDiv (n d : Nat) : Nat :=
  let q := n / d
  let r := n % d
  if d < 2 * r || (2 * r = d && q % 2 = 1) then q + 1 else q

/-- `n / d / 2 ^ e` as a fraction. -/
def shifted (n d : Nat) (e : Int) : Nat × Nat :=
  if 0 ≤ e then (n, d * Nat.pow 2 e.toNat) else (n * Nat.pow 2 (-e).toNat, d)

/-- The exponent at which the integer part of `n / d` divided by the power of two has 53 bits, and at
least the least exponent. -/
def exponentFor (n d : Nat) : Int :=
  let guess : Int := (n.log2 : Int) - (d.log2 : Int) - 52
  let (a, b) := shifted n d guess
  let fitted := if a / b < Nat.pow 2 52 then guess - 1 else guess
  max minExponent fitted

/-- The number nearest to the positive fraction `n / d`. -/
def ofFraction (negative : Bool) (n d : Nat) : Binary64 :=
  let e := exponentFor n d
  let (a, b) := shifted n d e
  let m := roundDiv a b
  let (m, e) := if m = Nat.pow 2 53 then (Nat.pow 2 52, e + 1) else (m, e)
  if maxExponent < e then .infinite negative else .finite negative m e

/-- The number nearest to `digits * 10 ^ e`. -/
def ofDecimal (negative : Bool) (digits : Nat) (e : Int) : Binary64 :=
  let size : Int := (Text.decimal digits).length + e
  if digits = 0 || size < -400 then .finite negative 0 minExponent
  else if 400 < size then .infinite negative
  else
    let (n, d) := scale digits 10 e
    ofFraction negative n d

/-- Whether the number is a zero of either sign. -/
def isZero : Binary64 → Bool
  | .finite _ m _ => m = 0
  | _ => false

/-- Whether the number is finite. -/
def isFinite : Binary64 → Bool
  | .finite _ _ _ => true
  | _ => false

/-- The least `k` such that the positive fraction `n / d` is below `10 ^ k`, searched from `-j`
down. -/
def magnitudeBelow (n d : Nat) : (fuel : Nat) → (j : Nat) → Int
  | 0, j => -(j : Int)
  | fuel + 1, j => if d ≤ n * Nat.pow 10 (j + 1) then -(j : Int) else magnitudeBelow n d fuel (j + 1)

/-- The least `k` such that the positive fraction `n / d` is below `10 ^ k`. -/
def magnitude (n d : Nat) : Int :=
  if d ≤ n then (Text.decimal (n / d)).length else magnitudeBelow n d 400 0

/-- The decimal with `places` digits nearest to the fraction `n / d` below `10 ^ k` that reads back as
`target`, if there is one. Of two that are equally near the greater is taken. -/
def nearestWith? (target : Binary64) (n d : Nat) (k : Int) (places : Nat) : Option Nat :=
  let (a, b) := scale n 10 (places - k)
  let below := a / (b * d)
  let rest := a % (b * d)
  let order := if 2 * rest < b * d then [below, below + 1] else [below + 1, below]
  order.find? fun c => ofDecimal false c (k - places) = target

/-- The fewest digits that read back as the positive number `n / d`, with the power of ten below which
it lies. -/
def shortest (target : Binary64) (n d : Nat) : Nat × Int :=
  let k := magnitude n d
  let found := (List.range' 1 17).findSome? fun places =>
    (nearestWith? target n d k places).map fun c => (c, k - places)
  found.getD (0, 0)

/-- `digits * 10 ^ e` in positional form. -/
def positional (digits : Nat) (e : Int) : Text :=
  let t := Text.decimal digits
  if 0 ≤ e then t ++ List.replicate e.toNat '0'
  else
    let places := (-e).toNat
    let full := Text.padLeft '0' (places + 1) t
    full.take (full.length - places) ++ ['.'] ++ full.drop (full.length - places)

/-- The number without the zeros at the end of its digits. -/
def dropZeros : (fuel : Nat) → Nat → Int → Nat × Int
  | 0, digits, e => (digits, e)
  | fuel + 1, digits, e =>
    if digits ≠ 0 && digits % 10 = 0 then dropZeros fuel (digits / 10) (e + 1) else (digits, e)

/-- The number in positional form, with the fewest digits that read back. -/
def toText : Binary64 → Text
  | .nan => "NaN".toList
  | .infinite negative => (if negative then ['-'] else []) ++ "inf".toList
  | .finite negative m e =>
    let sign : Text := if negative then ['-'] else []
    if m = 0 then sign ++ ['0']
    else
      let (n, d) := scale m 2 e
      let (digits, place) := shortest (.finite false m e) n d
      let (digits, place) := dropZeros 20 digits place
      sign ++ positional digits place

end Binary64

end MacroBody
