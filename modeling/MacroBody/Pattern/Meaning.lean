import MacroBody.Pattern.Expr
import MacroBody.Pattern.Property

/-!
# The meaning of a pattern

A pattern tree is given its meaning from left to right under the flags that hold at each place.
Classes become sets of code points: first the parts, then the closure under case, then the negation.
Where Unicode is switched off a class is a set of bytes, and one that holds a byte outside ASCII is
refused because it could match part of a character.
-/

namespace MacroBody.Pattern

/-- The flags that matter for the meaning of a pattern. -/
structure Flags where
  caseInsensitive : Bool
  multiLine : Bool
  dotAll : Bool
  swapGreed : Bool
  unicode : Bool
  crlf : Bool
  deriving DecidableEq, Repr

namespace Flags

/-- The flags that hold at the start of a pattern. -/
def initial : Flags :=
  ⟨false, false, false, false, true, false⟩

/-- The flags after a change. -/
def update (f : Flags) (change : FlagChange) : Flags where
  caseInsensitive := (change.lookup .caseInsensitive).getD f.caseInsensitive
  multiLine := (change.lookup .multiLine).getD f.multiLine
  dotAll := (change.lookup .dotAll).getD f.dotAll
  swapGreed := (change.lookup .swapGreed).getD f.swapGreed
  unicode := (change.lookup .unicode).getD f.unicode
  crlf := (change.lookup .crlf).getD f.crlf

/-- The set closed under case, if case is ignored, and then negated, if asked for. Without Unicode
the result must hold no byte outside ASCII. -/
def finish (f : Flags) (negated : Bool) (set : CharSet) : Except Fault CharSet :=
  let folded :=
    if f.caseInsensitive then (if f.unicode then .foldCase set else .foldAscii set) else set
  let result := if negated then .compl folded else folded
  if f.unicode then .ok result
  else if result.isAsciiOnly then .ok (.inter result .ascii)
  else .error .invalidUtf8

end Flags

/-- The ranges of a named ASCII class. -/
def AsciiClass.ranges : AsciiClass → List (Nat × Nat)
  | .alnum => [(0x30, 0x39), (0x41, 0x5a), (0x61, 0x7a)]
  | .alpha => [(0x41, 0x5a), (0x61, 0x7a)]
  | .ascii => [(0, 0x7f)]
  | .blank => [(9, 9), (0x20, 0x20)]
  | .cntrl => [(0, 0x1f), (0x7f, 0x7f)]
  | .digit => [(0x30, 0x39)]
  | .graph => [(0x21, 0x7e)]
  | .lower => [(0x61, 0x7a)]
  | .print => [(0x20, 0x7e)]
  | .punct => [(0x21, 0x2f), (0x3a, 0x40), (0x5b, 0x60), (0x7b, 0x7e)]
  | .space => [(9, 0xd), (0x20, 0x20)]
  | .upper => [(0x41, 0x5a)]
  | .word => [(0x30, 0x39), (0x41, 0x5a), (0x5f, 0x5f), (0x61, 0x7a)]
  | .xdigit => [(0x30, 0x39), (0x41, 0x46), (0x61, 0x66)]

/-- The set of a shorthand class. -/
def Shorthand.set (f : Flags) (negated : Bool) (name : Shorthand) : Except Fault CharSet :=
  let set :=
    match name, f.unicode with
    | .digit, true => decimalNumbers
    | .space, true => .blank
    | .word, true => .word
    | .digit, false => .ofRanges AsciiClass.digit.ranges
    | .space, false => .ofRanges AsciiClass.space.ranges
    | .word, false => .ofRanges AsciiClass.word.ranges
  Flags.finish { f with caseInsensitive := false } negated set

/-- The set of a property class. -/
def PropertyQuery.set (f : Flags) (negated : Bool) (query : PropertyQuery) :
    Except Fault CharSet := do
  if !f.unicode then .error .unicodeNotAllowed
  let set ← query.resolve
  f.finish negated set

/-- The code point that a literal of a class stands for. -/
def Literal.classCode (f : Flags) (l : Literal) : Except Fault Nat :=
  if f.unicode || l.char.toNat < 0x80 then .ok l.char.toNat
  else if l.asByte then .error .invalidUtf8
  else .error .unicodeNotAllowed

/-- The set that an operation makes of two sets, each closed under case first if case is ignored. -/
def ClassOp.apply (f : Flags) (op : ClassOp) (a b : CharSet) : CharSet :=
  let close := fun set : CharSet =>
    if f.caseInsensitive then (if f.unicode then .foldCase set else .foldAscii set) else set
  match op with
  | .intersection => .inter (close a) (close b)
  | .difference => .diff (close a) (close b)
  | .symmetricDifference => .symmDiff (close a) (close b)

mutual

/-- The set that a class denotes. -/
def ClassTree.set (f : Flags) : ClassTree → Except Fault CharSet
  | .empty => .ok .empty
  | .literal l => do
    let n ← l.classCode f
    .ok (.single n)
  | .range first last => do
    let lo ← first.classCode f
    let hi ← last.classCode f
    .ok (.range lo hi)
  | .ascii name negated => f.finish negated (.ofRanges name.ranges)
  | .shorthand name negated => name.set f negated
  | .property query negated => query.set f negated
  | .bracketed negated content => do
    let set ← content.set f
    f.finish negated set
  | .union items => ClassTree.setAll f items
  | .op operation left right => do
    let a ← left.set f
    let b ← right.set f
    .ok (operation.apply f a b)

/-- The union of the sets of several classes. -/
def ClassTree.setAll (f : Flags) : List ClassTree → Except Fault CharSet
  | [] => .ok .empty
  | item :: rest => do
    let a ← item.set f
    let b ← ClassTree.setAll f rest
    .ok (.union a b)

end

/-- The expression of a set of characters, or of bytes where Unicode is switched off. -/
def Flags.expr (f : Flags) (set : CharSet) : Expr :=
  .ofClass ⟨set.ranges.characters, !f.unicode⟩

/-- The meaning of a literal. -/
def Literal.expr (f : Flags) (l : Literal) : Except Fault Expr :=
  let n := l.char.toNat
  if !f.unicode && l.asByte && 0x80 ≤ n then .error .invalidUtf8
  else if f.caseInsensitive then
    .ok (f.expr (if f.unicode then .foldCase (.single n) else .foldAscii (.single n)))
  else .ok (.literal [l.char])

/-- The meaning of the dot: any character, or any but the ends of lines. -/
def dotExpr (f : Flags) : Except Fault Expr :=
  if !f.unicode then .error .invalidUtf8
  else if f.dotAll then .ok (f.expr (.compl .empty))
  else if f.crlf then .ok (f.expr (.compl (.ofRanges [(0xa, 0xa), (0xd, 0xd)])))
  else .ok (f.expr (.compl (.single 0xa)))

/-- The test that an assertion makes. -/
def Assertion.look (f : Flags) (a : Assertion) : Look :=
  let ascii := !f.unicode
  match a with
  | .startLine => if f.multiLine then (if f.crlf then .startLineCrlf else .startLine) else .start
  | .endLine => if f.multiLine then (if f.crlf then .endLineCrlf else .endLine) else .finish
  | .startText => .start
  | .endText => .finish
  | .wordBoundary => .boundary ascii
  | .notWordBoundary => .notBoundary ascii
  | .wordStart => .wordStart ascii
  | .wordEnd => .wordEnd ascii
  | .wordStartHalf => .wordStartHalf ascii
  | .wordEndHalf => .wordEndHalf ascii

mutual

/-- The meaning of a tree under the given flags, and the flags that hold after it. -/
def Tree.expr (f : Flags) : Tree → Except Fault (Expr × Flags)
  | .empty => .ok (.empty, f)
  | .flags change => .ok (.empty, f.update change)
  | .literal l => (l.expr f).map (·, f)
  | .dot => (dotExpr f).map (·, f)
  | .assertion a => .ok (.look (a.look f), f)
  | .shorthand name negated => (name.set f negated).map fun set => (f.expr set, f)
  | .property query negated => (query.set f negated).map fun set => (f.expr set, f)
  | .bracketed negated content => do
    let set ← content.set f
    let set ← f.finish negated set
    .ok (f.expr set, f)
  | .rep body least most greedy => do
    let (e, after) ← body.expr f
    .ok (e.repeated least most (greedy != after.swapGreed), after)
  | .group captures change body => do
    let (e, _) ← body.expr (f.update change)
    .ok (if captures then .group e else e, f)
  | .alternation branches => do
    let (es, after) ← Tree.exprs f branches
    .ok (.alternatives es, after)
  | .concat parts => do
    let (es, after) ← Tree.exprs f parts
    .ok (.sequence es, after)

/-- The meanings of trees from left to right, and the flags that hold after them. -/
def Tree.exprs (f : Flags) : List Tree → Except Fault (List Expr × Flags)
  | [] => .ok ([], f)
  | tree :: rest => do
    let (e, after) ← tree.expr f
    let (es, last) ← Tree.exprs after rest
    .ok (e :: es, last)

end

end MacroBody.Pattern
