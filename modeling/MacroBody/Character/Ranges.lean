/-!
# Ranges of code points

A set of code points as a list of ranges `(lo, hi)`. The list is in normal form if the ranges stand
in increasing order and no two of them touch; then it is the shortest list for its set, and equal
sets have equal lists. `normalize` brings any list into this form, and the operations keep it.
-/

namespace MacroBody

/-- A set of code points as ranges, both ends included. -/
abbrev Ranges := List (Nat × Nat)

namespace Ranges

/-- The last code point. -/
def lastCode : Nat := 0x10ffff

/-- Joins the range from `lo` to `hi` with the ranges after it, which start in increasing order. -/
def joinFrom (lo hi : Nat) : Ranges → Ranges
  | [] => [(lo, hi)]
  | (a, b) :: rest =>
    if a ≤ hi + 1 then joinFrom lo (max hi b) rest else (lo, hi) :: joinFrom a b rest

/-- The ranges in normal form. -/
def normalize (ranges : Ranges) : Ranges :=
  match (ranges.filter fun r => r.1 ≤ r.2).mergeSort fun a b => a.1 ≤ b.1 with
  | [] => []
  | (a, b) :: rest => joinFrom a b rest

/-- Whether `n` lies in one of the ranges. -/
def contains (ranges : Ranges) (n : Nat) : Bool :=
  ranges.any fun (lo, hi) => lo ≤ n && n ≤ hi

/-- The code points from `start` on that lie in none of the ranges, which are in normal form. -/
def complFrom (start : Nat) : Ranges → Ranges
  | [] => if start ≤ lastCode then [(start, lastCode)] else []
  | (a, b) :: rest =>
    if start < a then (start, a - 1) :: complFrom (b + 1) rest else complFrom (b + 1) rest

/-- The code points that are not in the set. -/
def compl (ranges : Ranges) : Ranges :=
  complFrom 0 ranges

/-- The code points of either set. -/
def union (a b : Ranges) : Ranges :=
  normalize (a ++ b)

/-- The code points of both sets. -/
def inter (a b : Ranges) : Ranges :=
  compl (union (compl a) (compl b))

/-- The code points of the first set that are not in the second. -/
def diff (a b : Ranges) : Ranges :=
  inter a (compl b)

/-- The code points of the set that are characters: surrogates are none. -/
def characters (ranges : Ranges) : Ranges :=
  diff ranges [(0xd800, 0xdfff)]

/-- The code points of every stretch `(lo, hi, step)`. -/
def ofStretches (stretches : List (Nat × Nat × Nat)) : Ranges :=
  normalize <| stretches.flatMap fun (lo, hi, step) =>
    if step ≤ 1 then [(lo, hi)]
    else (List.range ((hi - lo) / step + 1)).map fun i => (lo + i * step, lo + i * step)

/-- Adds the second of every pair whose first is in the set. -/
def addTargets (pairs : List (Nat × Nat)) (ranges : Ranges) : Ranges :=
  normalize <| ranges ++
    (pairs.filter fun p => ranges.contains p.1).map fun p => (p.2, p.2)

/-- Closes the set under the pairs, where no second of a pair is the first of another: whatever is
paired with the same code point is added too. -/
def closeUnder (pairs : List (Nat × Nat)) (ranges : Ranges) : Ranges :=
  addTargets (pairs.map fun p => (p.2, p.1)) (addTargets pairs ranges)

end Ranges

end MacroBody
