import MacroBody.Pattern.Bytes
import MacroBody.Pattern.Error
import Std.Data.HashMap

/-!
# The size of a pattern

Before a pattern is matched it is laid out as states over bytes, once from left to right and once
from right to left, and neither layout may take more room than `sizeLimit`. A repetition with a count
is written out, so a short pattern can have a large layout. A state takes 32 bytes, a transition of a
class 8 more, and a further way on 4 more. Nothing but the size is needed here: a layout is the
number of its states and bytes, and laying out an expression adds to both. States are numbered in the
order in which they are laid out, because what a class shares depends on the numbers.
-/

namespace MacroBody.Pattern

/-- The size of what has been laid out. -/
structure Layout where
  states : Nat
  bytes : Nat
  deriving DecidableEq, Repr

/-- The direction in which the subject is read. -/
inductive Direction
  | forward
  | backward
  deriving DecidableEq, Repr

namespace Layout

/-- Adds a state that takes `extra` bytes more than the least. -/
def add (l : Layout) (extra : Nat) : Layout :=
  ⟨l.states + 1, l.bytes + 32 + extra⟩

/-- Adds a state for one byte or an assertion. -/
def addStep (l : Layout) : Layout :=
  l.add 0

/-- Adds a state with ranges of bytes that lead on. -/
def addRanges (l : Layout) (count : Nat) : Layout :=
  l.add (8 * count)

/-- Adds a state with several ways on. -/
def addFork (l : Layout) (ways : Nat) : Layout :=
  l.add (4 * ways)

/-- Whether the layout takes too much room. -/
def isTooLarge (l : Layout) : Bool :=
  sizeLimit < l.bytes

/-- Lays out the same `count` times, or until it takes too much room. -/
def times (f : Layout → Layout) : (count : Nat) → Layout → Layout
  | 0, l => l
  | count + 1, l => if l.isTooLarge then l else times f count (f l)

end Layout

/-- A layout, and the states of the class at hand that can be shared: under the slot of a state the
last state with this slot, as the numbers that make it up and its own number. -/
structure Sharing where
  layout : Layout
  recent : Std.HashMap Nat (List Nat × Nat)

/-- The slot of a state among `slots`: its numbers are mixed one after the other, modulo `2 ^ 64`. -/
def slotOf (slots : Nat) (key : List Nat) : Nat :=
  let mixed := key.foldl (fun (h : UInt64) n => (h ^^^ n.toUInt64) * 1099511628211)
    14695981039346656037
  (mixed % slots.toUInt64).toNat

/-- The number of the last state in the slot, if it is made up of `key`. -/
def Sharing.find? (s : Sharing) (slot : Nat) (key : List Nat) : Option Nat :=
  (s.recent[slot]?.filter fun entry => entry.1 = key).map (·.2)

/-- The number of the state that is made up of `key`. It is shared if it was the last in its slot, and
laid out otherwise. -/
def Sharing.state (s : Sharing) (slots : Nat) (key : List Nat) (extra : Nat) : Nat × Sharing :=
  let slot := slotOf slots key
  match s.find? slot key with
  | some number => (number, s)
  | none =>
    let number := s.layout.states
    (number, ⟨s.layout.add extra, s.recent.insert slot (key, number)⟩)

/-- Lays out sequences of byte ranges from left to right, with their ends before their starts: equal
ends are shared. `depth` is at least the length of a sequence, and all lead to `target`. -/
def Sharing.ends (target : Nat) :
    (depth : Nat) → List (List ByteRange) → Sharing → Nat × Sharing
  | 0, _, s => (target, s)
  | depth + 1, sequences, s =>
    let groups := sequences.splitBy fun a b => a.head? == b.head?
    let (key, s) := groups.foldl (fun (key, s) group =>
      match group with
      | ((lo, hi) :: tail) :: _ =>
        let (next, s) :=
          if tail.isEmpty then (target, s)
          else Sharing.ends target depth (group.map List.tail) s
        (next :: hi :: lo :: key, s)
      | _ => (key, s)) ([], s)
    s.state 10000 key.reverse (8 * groups.length)

/-- Lays out one sequence of byte ranges from right to left: equal starts are shared. -/
def Sharing.starts (target : Nat) (s : Sharing) (sequence : List ByteRange) : Sharing :=
  (sequence.foldl (fun (next, s) (lo, hi) => Sharing.state s 1000 [next, lo, hi] 0) (target, s)).2

/-- Lays out a class. -/
def CharClass.lay (d : Direction) (c : CharClass) (l : Layout) : Layout :=
  if c.isAscii then l.addStep.addRanges c.ranges.length
  else
    let sequences := c.sequences
    match d with
    | .forward => (Sharing.ends l.states 4 sequences ⟨l.addStep, ∅⟩).2.layout
    | .backward =>
      let both := (l.addFork sequences.length).addStep
      (sequences.foldl (Sharing.starts (l.states + 1)) ⟨both, ∅⟩).layout

/-- Lays out texts that are alternatives as a tree of their bytes, where a text that ends inside the
tree divides those before it from those after it. -/
def layTree : (depth : Nat) → List (List Nat) → Layout → Layout
  | 0, _, l => l
  | depth + 1, texts, l =>
    if texts.all List.isEmpty then l
    else
      let texts := if texts.head? = some [] then [] :: texts.dropWhile List.isEmpty else texts
      let parts := texts.splitOn []
      let (l, ways) := parts.foldl (fun (l, ways) part =>
        let firsts := (part.filterMap List.head?).eraseDups
        let l := firsts.foldl (fun l first =>
          layTree depth ((part.filter (·.head? = some first)).map List.tail) l) l
        match firsts with
        | [] => (l, ways)
        | [_] => (l.addStep, ways + 1)
        | _ => (l.addRanges firsts.length, ways + 1)) (l, parts.length - 1)
      l.addFork ways

/-- The text that an expression is. -/
def Expr.text? : Expr → Option Text
  | .literal t => some t
  | _ => none

mutual

/-- Lays out an expression. -/
def Expr.lay (d : Direction) : Expr → Layout → Layout
  | .empty, l => l.addStep
  | .literal t, l => (textBytes t).foldl (fun l _ => l.addStep) l
  | .chars c, l => c.lay d l
  | .look _, l => l.addStep
  | .cat parts, l =>
    match d with
    | .forward => Expr.layEach d parts l
    | .backward => Expr.layBack d parts l
  | .alt branches, l =>
    match branches.mapM Expr.text? with
    | some texts =>
      let bytes := texts.map fun t =>
        match d with
        | .forward => textBytes t
        | .backward => (textBytes t).reverse
      layTree ((bytes.map List.length).sum + 1) bytes l.addStep
    | none => Expr.layChoice d branches l
  | .rep body 0 (some 1) _, l => (body.lay d (l.addFork 2)).addStep
  | .rep body 0 none _, l =>
    if body.leastLength.any (0 < ·) then body.lay d (l.addFork 2)
    else (((body.lay d l).addFork 2).addFork 2).addStep
  | .rep body least none _, l => (l.times (body.lay d) least).addFork 2
  | .rep body least (some most) _, l =>
    let before := if least = 0 then l.addStep else l.times (body.lay d) least
    if least = most then before
    else before.addStep.times (fun l => body.lay d (l.addFork 2)) (most - least)
  | .group body, l =>
    match d with
    | .forward => (body.lay d l.addStep).addStep
    | .backward => body.lay d l

/-- Lays out expressions in their order. -/
def Expr.layEach (d : Direction) : List Expr → Layout → Layout
  | [], l => l
  | part :: rest, l => Expr.layEach d rest (part.lay d l)

/-- Lays out expressions in the opposite order. -/
def Expr.layBack (d : Direction) : List Expr → Layout → Layout
  | [], l => l
  | part :: rest, l => part.lay d (Expr.layBack d rest l)

/-- Lays out alternatives: the fork to them and their common end come after the first two. -/
def Expr.layChoice (d : Direction) : List Expr → Layout → Layout
  | [], l => l
  | [only], l => only.lay d l
  | first :: second :: rest, l =>
    let fork := ((second.lay d (first.lay d l)).addFork (rest.length + 2)).addStep
    Expr.layEach d rest fork

end

/-- The layout of a pattern. Unless it is anchored, it starts with a loop over any bytes. From left to
right, the whole match is captured. -/
def Expr.layout (d : Direction) (e : Expr) : Layout :=
  let anchored :=
    match d with
    | .forward => e.isAnchored
    | .backward => e.isClosed
  let start : Layout := ⟨0, 0⟩
  let l := if anchored then start.addStep else ((start.addFork 2).addStep).addRanges 1
  match d with
  | .forward => (e.lay d l.addStep).addStep.addStep
  | .backward => (e.lay d l).addStep

/-- Whether the pattern takes too much room. -/
def Expr.isTooLarge (e : Expr) : Bool :=
  (e.layout .forward).isTooLarge || (e.layout .backward).isTooLarge

end MacroBody.Pattern
