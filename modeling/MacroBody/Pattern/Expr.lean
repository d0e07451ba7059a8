import MacroBody.Character.Set
import MacroBody.Text.Basic

/-!
# Pattern expressions

What a pattern means, as an expression over literal texts, classes of characters and assertions. An
expression is built by functions that keep it simple: a sequence holds no sequence and no empty part,
and its neighbouring literals are one; alternatives hold no alternatives, single characters and
classes among them become one class, and what all of them start with stands before them; what takes
no room is repeated at most once.
-/

namespace MacroBody.Pattern

/-- The tests that an assertion makes at a position. -/
inductive Look
  | start
  | finish
  | startLine
  | endLine
  | startLineCrlf
  | endLineCrlf
  | boundary (ascii : Bool)
  | notBoundary (ascii : Bool)
  | wordStart (ascii : Bool)
  | wordEnd (ascii : Bool)
  | wordStartHalf (ascii : Bool)
  | wordEndHalf (ascii : Bool)
  deriving DecidableEq, Repr

/-- A class of characters, as ranges in normal form; `bytes` marks a class that was written for bytes
and not for characters. -/
structure CharClass where
  ranges : Ranges
  bytes : Bool
  deriving DecidableEq, Repr

/-- What a pattern means. -/
inductive Expr
  | empty
  /-- A text of at least one character. -/
  | literal (t : Text)
  | chars (c : CharClass)
  | look (l : Look)
  | cat (parts : List Expr)
  | alt (branches : List Expr)
  /-- At least `least` and, if given, at most `most` times; `greedy` prefers more to less. -/
  | rep (body : Expr) (least : Nat) (most : Option Nat) (greedy : Bool)
  /-- A group that captures what it matches. -/
  | group (body : Expr)

namespace Expr

/-- The class that holds no character. -/
def fail : Expr :=
  .chars ⟨[], true⟩

/-- The number of bytes that a character takes. -/
def byteCount (c : Char) : Nat :=
  (String.utf8EncodeChar c).length

/-- The number of bytes that the code point `n` takes. -/
def codeBytes (n : Nat) : Nat :=
  byteCount (Char.ofNat n)

mutual

/-- The fewest bytes that a match takes, unless a part of the expression cannot match. -/
def leastLength : Expr → Option Nat
  | .empty => some 0
  | .literal t => some (t.map byteCount).sum
  | .chars c => c.ranges.head?.map fun r => codeBytes r.1
  | .look _ => some 0
  | .cat parts => leastSum parts
  | .alt branches => leastOf branches
  | .rep body least _ _ => some (body.leastLength.getD 0 * least)
  | .group body => body.leastLength

/-- The fewest bytes that a match of all parts takes. -/
def leastSum : List Expr → Option Nat
  | [] => some 0
  | part :: rest => do
    let n ← part.leastLength
    let m ← leastSum rest
    some (n + m)

/-- The fewest bytes that a match of one of the alternatives takes. -/
def leastOf : List Expr → Option Nat
  | [] => none
  | [branch] => branch.leastLength
  | branch :: rest => do
    let n ← branch.leastLength
    let m ← leastOf rest
    some (min n m)

end

mutual

/-- The most bytes that a match takes, if there is a bound. -/
def mostLength : Expr → Option Nat
  | .empty => some 0
  | .literal t => some (t.map byteCount).sum
  | .chars c => c.ranges.getLast?.map fun r => codeBytes r.2
  | .look _ => some 0
  | .cat parts => mostSum parts
  | .alt branches => mostOf branches
  | .rep body _ most _ => do
    let n ← most
    let m ← body.mostLength
    some (n * m)
  | .group body => body.mostLength

/-- The most bytes that a match of all parts takes. -/
def mostSum : List Expr → Option Nat
  | [] => some 0
  | part :: rest => do
    let n ← part.mostLength
    let m ← mostSum rest
    some (n + m)

/-- The most bytes that a match of one of the alternatives takes. -/
def mostOf : List Expr → Option Nat
  | [] => some 0
  | branch :: rest => do
    let n ← branch.mostLength
    let m ← mostOf rest
    some (max n m)

end

mutual

/-- Whether two expressions are the same. Two groups never are, since each captures for itself. -/
def same : Expr → Expr → Bool
  | .empty, .empty => true
  | .literal s, .literal t => s = t
  | .chars c, .chars d => c = d
  | .look k, .look l => k = l
  | .cat ps, .cat qs => sameAll ps qs
  | .alt ps, .alt qs => sameAll ps qs
  | .rep a least most greedy, .rep b least' most' greedy' =>
    a.same b && least = least' && most = most' && greedy == greedy'
  | _, _ => false

/-- Whether two lists hold the same expressions. -/
def sameAll : List Expr → List Expr → Bool
  | [], [] => true
  | p :: ps, q :: qs => p.same q && sameAll ps qs
  | _, _ => false

end

/-- The expression of a class: a class of one character is that character. -/
def ofClass (c : CharClass) : Expr :=
  match c.ranges with
  | [] => fail
  | [(lo, hi)] => if lo = hi then .literal [Char.ofNat lo] else .chars c
  | _ => .chars c

/-- The expression repeated. -/
def repeated (body : Expr) (least : Nat) (most : Option Nat) (greedy : Bool) : Expr :=
  let (least, most) :=
    if body.mostLength = some 0 then (min least 1, some (min (most.getD 1) 1))
    else (least, most)
  if least = 0 && most = some 0 then .empty
  else if least = 1 && most = some 1 then body
  else .rep body least most greedy

/-- Puts a part before others; two literals become one. -/
def consPart (part : Expr) (rest : List Expr) : List Expr :=
  match part, rest with
  | .literal s, .literal t :: more => .literal (s ++ t) :: more
  | _, _ => part :: rest

/-- The parts of a sequence that an expression makes up. -/
def toParts : Expr → List Expr
  | .empty => []
  | .cat parts => parts
  | e => [e]

/-- The expressions in sequence. -/
def sequence (parts : List Expr) : Expr :=
  match (parts.flatMap toParts).foldr consPart [] with
  | [] => .empty
  | [part] => part
  | parts => .cat parts

/-- The alternatives that an expression makes up. -/
def toBranches : Expr → List Expr
  | .alt branches => branches
  | e => [e]

/-- The character that an expression is. -/
def char? : Expr → Option Char
  | .literal [c] => some c
  | _ => none

/-- The class that an expression is. -/
def class? : Expr → Option CharClass
  | .chars c => some c
  | _ => none

/-- The class that alternatives make up, if each is a character or each is a class. -/
def joinedClass? (branches : List Expr) : Option CharClass :=
  match branches.mapM char? with
  | some cs => some ⟨.normalize (cs.map fun c => (c.toNat, c.toNat)), false⟩
  | none =>
    (branches.mapM class?).map fun classes =>
      ⟨.normalize (classes.flatMap CharClass.ranges), false⟩

/-- Several alternatives, as they are or as one class. -/
def choice (branches : List Expr) : Expr :=
  match branches.flatMap toBranches with
  | [] => fail
  | [branch] => branch
  | branches =>
    match joinedClass? branches with
    | some c => ofClass c
    | none => .alt branches

/-- The parts that two lists start with. -/
def commonParts : List Expr → List Expr → List Expr
  | p :: ps, q :: qs => if p.same q then p :: commonParts ps qs else []
  | _, _ => []

/-- The parts that all alternatives start with, if all are sequences. -/
def commonStart (branches : List Expr) : List Expr :=
  let parts? := fun e : Expr =>
    match e with
    | .cat parts => some parts
    | _ => none
  match branches.mapM parts? with
  | some (first :: others) => others.foldl commonParts first
  | _ => []

/-- The alternatives, after what all of them start with. -/
def alternatives (branches : List Expr) : Expr :=
  match choice branches with
  | .alt branches =>
    match commonStart branches with
    | [] => .alt branches
    | start =>
      let rests := branches.map fun b => sequence (b.toParts.drop start.length)
      sequence (start ++ [choice rests])
  | e => e

mutual

/-- Whether every match starts at the start of the subject, as an assertion says. -/
def isAnchored : Expr → Bool
  | .look l => l = .start
  | .cat parts => isAnchoredBy parts
  | .alt branches => isAnchoredEach branches
  | .rep body least _ _ => 0 < least && body.isAnchored
  | .group body => body.isAnchored
  | _ => false

/-- Whether one of the parts before the first match of a character is an anchor. -/
def isAnchoredBy : List Expr → Bool
  | [] => false
  | part :: rest =>
    part.isAnchored || (part.mostLength = some 0 && isAnchoredBy rest)

/-- Whether every alternative is anchored. -/
def isAnchoredEach : List Expr → Bool
  | [] => true
  | branch :: rest => branch.isAnchored && isAnchoredEach rest

end

mutual

/-- Whether every match ends at the end of the subject, as an assertion says. -/
def isClosed : Expr → Bool
  | .look l => l = .finish
  | .cat parts => isClosedBy parts
  | .alt branches => isClosedEach branches
  | .rep body least _ _ => 0 < least && body.isClosed
  | .group body => body.isClosed
  | _ => false

/-- Whether one of the parts after the last match of a character is such an assertion. -/
def isClosedBy : List Expr → Bool
  | [] => false
  | part :: rest => isClosedBy rest || (part.isClosed && mostSum rest = some 0)

/-- Whether every alternative ends so. -/
def isClosedEach : List Expr → Bool
  | [] => true
  | branch :: rest => branch.isClosed && isClosedEach rest

end

end Expr

end MacroBody.Pattern
