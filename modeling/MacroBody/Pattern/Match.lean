import MacroBody.Pattern.Expr

/-!
# Matching

A pattern is matched against a subject by following all ways through the pattern at once. A set of
positions in the subject is a number whose bits are the positions. Reading a character of a class
keeps the positions where the subject has such a character and moves them by one; an assertion keeps
the positions where it holds; an alternative joins the results. Only whether there is a match
matters, so it is enough to start from all positions and to see whether any is reached.
-/

namespace MacroBody.Pattern

/-- Whether the character beside a position is a word character; there is none beyond the ends. -/
def isWordBeside (ascii : Bool) (c : Option Char) : Bool :=
  match c with
  | none => false
  | some c => if ascii then c.isAlphanum || c = '_' else isWord c

/-- Whether the assertion holds between the two characters. -/
def Look.holds (l : Look) (before after : Option Char) : Bool :=
  match l with
  | .start => before.isNone
  | .finish => after.isNone
  | .startLine => before.isNone || before = some '\n'
  | .endLine => after.isNone || after = some '\n'
  | .startLineCrlf =>
    before.isNone || before = some '\n' || (before = some '\r' && after ≠ some '\n')
  | .endLineCrlf =>
    after.isNone || after = some '\r' || (after = some '\n' && before ≠ some '\r')
  | .boundary ascii => isWordBeside ascii before != isWordBeside ascii after
  | .notBoundary ascii => isWordBeside ascii before == isWordBeside ascii after
  | .wordStart ascii => !isWordBeside ascii before && isWordBeside ascii after
  | .wordEnd ascii => isWordBeside ascii before && !isWordBeside ascii after
  | .wordStartHalf ascii => !isWordBeside ascii before
  | .wordEndHalf ascii => !isWordBeside ascii after

/-- The set of positions at which the bits are true, from position 0 on. -/
def positions : List Bool → Nat
  | [] => 0
  | b :: rest => b.toNat + 2 * positions rest

/-- The positions after a character that satisfies `p`, from those before it in the set. -/
def readChar (p : Char → Bool) (subject : Text) (set : Nat) : Nat :=
  (set &&& positions (subject.map p)) <<< 1

/-- The positions of the subject at which an assertion holds, given the character before it. -/
def lookBits (l : Look) : Option Char → Text → List Bool
  | before, [] => [l.holds before none]
  | before, c :: rest => l.holds before (some c) :: lookBits l (some c) rest

/-- Applies `f` as long as it adds new positions, `fuel` times at most, and gives all positions
reached. `fresh` are those added last. -/
def closure (f : Nat → Nat) : (fuel : Nat) → (fresh reached : Nat) → Nat
  | 0, _, reached => reached
  | fuel + 1, fresh, reached =>
    let next := f fresh
    let added := next ^^^ (next &&& reached)
    if added = 0 then reached else closure f fuel added (reached ||| added)

/-- Applies `f` up to `count` times and gives all positions reached on the way. -/
def upTo (f : Nat → Nat) : (count : Nat) → Nat → Nat
  | 0, set => set
  | count + 1, set =>
    let next := f set
    if next = set then set else set ||| upTo f count next

/-- Applies `f` exactly `count` times. -/
def exactly (f : Nat → Nat) : (count : Nat) → Nat → Nat
  | 0, set => set
  | count + 1, set =>
    let next := f set
    if next = set then set else exactly f count next

mutual

/-- The positions that a match starting at one of the given positions can end at. -/
def Expr.reach (subject : Text) : Expr → Nat → Nat
  | .empty, set => set
  | .literal t, set => t.foldl (fun set c => readChar (· = c) subject set) set
  | .chars c, set => readChar (fun x => c.ranges.contains x.toNat) subject set
  | .look l, set => set &&& positions (lookBits l none subject)
  | .cat parts, set => Expr.reachAll subject parts set
  | .alt branches, set => Expr.reachAny subject branches set
  | .rep body least none _, set =>
    let start := exactly (body.reach subject) least set
    closure (body.reach subject) (subject.length + 1) start start
  | .rep body least (some most) _, set =>
    upTo (body.reach subject) (most - least) (exactly (body.reach subject) least set)
  | .group body, set => body.reach subject set

/-- The positions that a match of all parts in sequence can end at. -/
def Expr.reachAll (subject : Text) : List Expr → Nat → Nat
  | [], set => set
  | part :: rest, set => Expr.reachAll subject rest (part.reach subject set)

/-- The positions that a match of one of the alternatives can end at. -/
def Expr.reachAny (subject : Text) : List Expr → Nat → Nat
  | [], _ => 0
  | branch :: rest, set => branch.reach subject set ||| Expr.reachAny subject rest set

end

/-- Whether the pattern matches somewhere in the subject. -/
def Expr.isMatch (e : Expr) (subject : Text) : Bool :=
  e.reach subject (Nat.pow 2 (subject.length + 1) - 1) ≠ 0

end MacroBody.Pattern
