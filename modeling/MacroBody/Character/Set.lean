import MacroBody.Character.CaseFold
import MacroBody.Character.Ranges
import MacroBody.Character.Word

/-!
# Sets of characters

A character class denotes a set of code points. The set is kept as an expression over ranges and
tables, and `contains` evaluates it at one code point: set operations are Boolean operations, and
closing a set under case is a test of every case variant of the code point. `ranges` writes the whole
set down instead.
-/

namespace MacroBody

/-- A set of code points. -/
inductive CharSet
  | empty
  /-- The code points from `lo` to `hi`. -/
  | range (lo hi : Nat)
  /-- The code points of a property, as stretches `(lo, hi, step)`. -/
  | table (stretches : List (Nat × Nat × Nat))
  | word
  | blank
  | union (a b : CharSet)
  | inter (a b : CharSet)
  | diff (a b : CharSet)
  | symmDiff (a b : CharSet)
  | compl (a : CharSet)
  /-- The set closed under simple case folding. -/
  | foldCase (a : CharSet)
  /-- The set closed under the case of ASCII letters. -/
  | foldAscii (a : CharSet)

namespace CharSet

/-- Whether `n` lies in one of the stretches. -/
def inStretches (stretches : List (Nat × Nat × Nat)) (n : Nat) : Bool :=
  stretches.any fun (lo, hi, step) => lo ≤ n && n ≤ hi && (n - lo) % step == 0

/-- The ASCII letter `n` in both cases. -/
def asciiVariants (n : Nat) : List Nat :=
  if 0x41 ≤ n && n ≤ 0x5a then [n, n + 0x20]
  else if 0x61 ≤ n && n ≤ 0x7a then [n, n - 0x20]
  else [n]

/-- Whether the code point `n` is in the set. -/
def contains : CharSet → Nat → Bool
  | empty, _ => false
  | range lo hi, n => lo ≤ n && n ≤ hi
  | table stretches, n => inStretches stretches n
  | word, n => isWord (Char.ofNat n)
  | blank, n => isBlank (Char.ofNat n)
  | union a b, n => a.contains n || b.contains n
  | inter a b, n => a.contains n && b.contains n
  | diff a b, n => a.contains n && !b.contains n
  | symmDiff a b, n => a.contains n != b.contains n
  | compl a, n => !a.contains n
  | foldCase a, n => (caseVariants n).any a.contains
  | foldAscii a, n => (asciiVariants n).any a.contains

/-- The single code point `n`. -/
def single (n : Nat) : CharSet :=
  range n n

/-- The code points from U+0000 to U+007F. -/
def ascii : CharSet :=
  range 0 0x7f

/-- The union of ranges. -/
def ofRanges (ranges : List (Nat × Nat)) : CharSet :=
  table (ranges.map fun (lo, hi) => (lo, hi, 1))

/-- Whether every byte in the set is an ASCII byte. -/
def isAsciiOnly (set : CharSet) : Bool :=
  (List.range' 0x80 0x80).all fun n => !set.contains n

/-- Every ASCII letter with the same letter in the other case. -/
def asciiPairs : List (Nat × Nat) :=
  (List.range 26).map fun i => (0x41 + i, 0x61 + i)

/-- The code points of the set as ranges in normal form. -/
def ranges : CharSet → Ranges
  | empty => []
  | range lo hi => Ranges.normalize [(lo, hi)]
  | table stretches => .ofStretches stretches
  | word =>
    .normalize ([(0x30, 0x39), (0x41, 0x5a), (0x5f, 0x5f), (0x61, 0x7a)] ++ wordRanges)
  | blank => blankRanges
  | union a b => a.ranges.union b.ranges
  | inter a b => a.ranges.inter b.ranges
  | diff a b => a.ranges.diff b.ranges
  | symmDiff a b => (a.ranges.diff b.ranges).union (b.ranges.diff a.ranges)
  | compl a => a.ranges.compl
  | foldCase a => a.ranges.closeUnder foldPairs
  | foldAscii a => a.ranges.closeUnder asciiPairs

end CharSet

end MacroBody
