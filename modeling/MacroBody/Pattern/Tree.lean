import MacroBody.Pattern.Error

/-!
# Pattern trees

A pattern as it is written: groups, alternatives, repetitions, assertions, literals and character
classes. What a flag, a class or a property name means is settled later; the tree only records it.
`Tree.depth` counts the nesting that is limited.
-/

namespace MacroBody.Pattern

/-- The flags that change how a pattern is meant. -/
inductive Flag
  | caseInsensitive
  | multiLine
  | dotAll
  | swapGreed
  | unicode
  | crlf
  | ignoreBlanks
  deriving DecidableEq, Repr

/-- Flags that are switched on (`true`) or off. -/
abbrev FlagChange := List (Flag × Bool)

/-- A literal character; `asByte` marks the two-digit form, which may name a byte. -/
structure Literal where
  char : Char
  asByte : Bool
  deriving DecidableEq, Repr

/-- The places that an assertion can ask for. -/
inductive Assertion
  | startLine
  | endLine
  | startText
  | endText
  | wordBoundary
  | notWordBoundary
  | wordStart
  | wordEnd
  | wordStartHalf
  | wordEndHalf
  deriving DecidableEq, Repr

/-- The named classes of ASCII characters. -/
inductive AsciiClass
  | alnum
  | alpha
  | ascii
  | blank
  | cntrl
  | digit
  | graph
  | lower
  | print
  | punct
  | space
  | upper
  | word
  | xdigit
  deriving DecidableEq, Repr

/-- The classes that have an escape of their own. -/
inductive Shorthand
  | digit
  | space
  | word
  deriving DecidableEq, Repr

/-- A property query: a single name, or a property with a value. -/
inductive PropertyQuery
  | named (name : Text)
  | valued (property value : Text)
  deriving DecidableEq, Repr

/-- The operations between the parts of a class. -/
inductive ClassOp
  | intersection
  | difference
  | symmetricDifference
  deriving DecidableEq, Repr

/-- The content of a bracketed class. -/
inductive ClassTree
  | empty
  | literal (l : Literal)
  | range (first last : Literal)
  | ascii (name : AsciiClass) (negated : Bool)
  | shorthand (name : Shorthand) (negated : Bool)
  | property (query : PropertyQuery) (negated : Bool)
  | bracketed (negated : Bool) (content : ClassTree)
  | union (items : List ClassTree)
  | op (operation : ClassOp) (left right : ClassTree)

/-- A pattern as it is written. -/
inductive Tree
  | empty
  | flags (change : FlagChange)
  | literal (l : Literal)
  | dot
  | assertion (a : Assertion)
  | shorthand (name : Shorthand) (negated : Bool)
  | property (query : PropertyQuery) (negated : Bool)
  | bracketed (negated : Bool) (content : ClassTree)
  /-- At least `least` and, if given, at most `most` times; `greedy` prefers more to less. -/
  | rep (body : Tree) (least : Nat) (most : Option Nat) (greedy : Bool)
  /-- A group that sets flags for its content and may capture what it matches. -/
  | group (captures : Bool) (change : FlagChange) (body : Tree)
  | alternation (branches : List Tree)
  | concat (parts : List Tree)

mutual

/-- How deep classes are nested in a class. -/
def ClassTree.depth : ClassTree → Nat
  | .bracketed _ content => content.depth + 1
  | .union items => ClassTree.depthAll items + 1
  | .op _ left right => max left.depth right.depth + 1
  | _ => 0

/-- The depth of the deepest of several classes. -/
def ClassTree.depthAll : List ClassTree → Nat
  | [] => 0
  | item :: rest => max item.depth (ClassTree.depthAll rest)

end

mutual

/-- How deep groups, classes, repetitions and sequences are nested. -/
def Tree.depth : Tree → Nat
  | .bracketed _ content => content.depth + 1
  | .rep body _ _ _ => body.depth + 1
  | .group _ _ body => body.depth + 1
  | .alternation branches => Tree.depthAll branches + 1
  | .concat parts => Tree.depthAll parts + 1
  | _ => 0

/-- The depth of the deepest of several trees. -/
def Tree.depthAll : List Tree → Nat
  | [] => 0
  | part :: rest => max part.depth (Tree.depthAll rest)

end

/-- Several items as one class. -/
def ClassTree.ofItems : List ClassTree → ClassTree
  | [] => .empty
  | [item] => item
  | items => .union items

/-- Several parts in sequence as one tree. -/
def Tree.ofParts : List Tree → Tree
  | [] => .empty
  | [part] => part
  | parts => .concat parts

end MacroBody.Pattern
