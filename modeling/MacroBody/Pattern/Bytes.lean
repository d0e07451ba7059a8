import MacroBody.Pattern.Expr

/-!
# Classes of characters as bytes

A pattern is laid out over the bytes of its subject in UTF-8. The code points of a range have
encodings of different lengths, and not every sequence of bytes between the first and the last of
them is one; so a range becomes a list of sequences of byte ranges, such that every choice of one
byte from each range of a sequence is the encoding of a code point. Apart from a mark in every byte,
the bytes are the digits of the code point to the base 64.
-/

namespace MacroBody.Pattern

/-- The bytes from the first to the second. -/
abbrev ByteRange := Nat × Nat

/-- The numbers from `lo` to `hi` as sequences of ranges of digits to the base 64, with `places`
digits after the first. -/
def digitSequences : (places : Nat) → (lo hi : Nat) → List (List ByteRange)
  | 0, lo, hi => [[(lo, hi)]]
  | places + 1, lo, hi =>
    let unit := Nat.pow 64 (places + 1)
    let first := lo / unit
    let last := hi / unit
    let startsFull := lo % unit = 0
    let endsFull := hi % unit = unit - 1
    if first = last then
      (digitSequences places (lo % unit) (hi % unit)).map ((first, first) :: ·)
    else
      let head :=
        if startsFull then []
        else (digitSequences places (lo % unit) (unit - 1)).map ((first, first) :: ·)
      let tail :=
        if endsFull then []
        else (digitSequences places 0 (hi % unit)).map ((last, last) :: ·)
      let low := if startsFull then first else first + 1
      let high := if endsFull then last + 1 else last
      let middle :=
        if low < high then
          (digitSequences places 0 (unit - 1)).map ((low, high - 1) :: ·)
        else []
      head ++ middle ++ tail

/-- The stretches of code points with encodings of one form: the first and the last code point, the
number of bytes after the first, and the mark of the first. -/
def encodings : List (Nat × Nat × Nat × Nat) := [
  (0, 0x7f, 0, 0), (0x80, 0x7ff, 1, 0xc0), (0x800, 0xd7ff, 2, 0xe0), (0xe000, 0xffff, 2, 0xe0),
  (0x10000, 0x10ffff, 3, 0xf0)]

/-- Puts the marks to a sequence of digits: `mark` to the first, and `0x80` to the others. -/
def markBytes (mark : Nat) : List ByteRange → List ByteRange
  | [] => []
  | (lo, hi) :: rest => (lo + mark, hi + mark) :: rest.map fun (a, b) => (a + 0x80, b + 0x80)

/-- The code points from `lo` to `hi` as sequences of byte ranges, in increasing order. -/
def byteSequences (lo hi : Nat) : List (List ByteRange) :=
  encodings.flatMap fun (first, last, places, mark) =>
    let a := max lo first
    let b := min hi last
    if a ≤ b then (digitSequences places a b).map (markBytes mark) else []

/-- The characters of a class as sequences of byte ranges, in increasing order. -/
def CharClass.sequences (c : CharClass) : List (List ByteRange) :=
  c.ranges.flatMap fun (lo, hi) => byteSequences lo hi

/-- Whether every character of the class is an ASCII character. -/
def CharClass.isAscii (c : CharClass) : Bool :=
  c.ranges.all fun (_, hi) => hi ≤ 0x7f

/-- The bytes of a text. -/
def textBytes (t : Text) : List Nat :=
  (t.flatMap String.utf8EncodeChar).map UInt8.toNat

end MacroBody.Pattern
