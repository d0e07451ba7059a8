import MacroBody.Character.Current
import MacroBody.Pattern.ClassReader
import MacroBody.Pattern.Property

/-!
# Reading patterns

A pattern is read in one pass from left to right, with a stack of the groups that are open. Flags
set inside a group end with it, the flag that ignores blanks among them, so each open group keeps
the setting that holds after it. `Tree.read` is the whole reader; the nesting limit is checked on
its result.
-/

namespace MacroBody.Pattern

/-- A group that is open: what was read before it on its level, and what holds after it. -/
structure GroupFrame where
  /-- The parts before the group, last first. -/
  parts : List Tree
  /-- The finished alternatives before it, last first. -/
  branches : List Tree
  /-- Whether the group captures what it matches. -/
  captures : Bool
  /-- The flags the group sets for its content. -/
  change : FlagChange
  /-- Whether blanks are ignored after the group. -/
  ignoreBlanks : Bool

/-- What has been read of a pattern. -/
structure Progress where
  /-- The parts of the current alternative, last first. -/
  parts : List Tree
  /-- The finished alternatives of the current group, last first. -/
  branches : List Tree
  /-- The open groups, innermost first. -/
  groups : List GroupFrame
  /-- The names of the groups so far. -/
  names : List Text
  /-- Whether blanks are ignored. -/
  ignoreBlanks : Bool

namespace Progress

/-- The start of a pattern. -/
def start : Progress :=
  ⟨[], [], [], [], false⟩

/-- Adds a part to the current alternative. -/
def push (p : Progress) (part : Tree) : Progress :=
  { p with parts := part :: p.parts }

/-- The current group as one tree. -/
def content (p : Progress) : Tree :=
  let last := Tree.ofParts p.parts.reverse
  if p.branches.isEmpty then last else .alternation (p.branches.reverse ++ [last])

/-- Ends the current alternative. -/
def endBranch (p : Progress) : Progress :=
  { p with parts := [], branches := Tree.ofParts p.parts.reverse :: p.branches }

/-- Opens a group that sets flags for its content. -/
def openGroup (p : Progress) (captures : Bool) (change : FlagChange) : Progress :=
  { p with
    parts := []
    branches := []
    groups := ⟨p.parts, p.branches, captures, change, p.ignoreBlanks⟩ :: p.groups
    ignoreBlanks := (change.lookup .ignoreBlanks).getD p.ignoreBlanks }

/-- Closes the innermost group. -/
def closeGroup (p : Progress) : Except Fault Progress :=
  match p.groups with
  | [] => .error .groupUnopened
  | frame :: outer =>
    .ok { p with
      parts := .group frame.captures frame.change p.content :: frame.parts
      branches := frame.branches
      groups := outer
      ignoreBlanks := frame.ignoreBlanks }

/-- Sets flags for the rest of the current group. -/
def setFlags (p : Progress) (change : FlagChange) : Progress :=
  { p with
    parts := .flags change :: p.parts
    ignoreBlanks := (change.lookup .ignoreBlanks).getD p.ignoreBlanks }

/-- Repeats the last part. -/
def repeatLast (p : Progress) (least : Nat) (most : Option Nat) (greedy : Bool) :
    Except Fault Progress :=
  match p.parts with
  | [] => .error .repetitionMissing
  | .flags _ :: _ => .error .repetitionMissing
  | part :: before => .ok { p with parts := .rep part least most greedy :: before }

/-- Whether there is a part that can be repeated. -/
def canRepeat (p : Progress) : Bool :=
  match p.parts with
  | [] => false
  | .flags _ :: _ => false
  | _ => true

end Progress

/-- The flag with the given letter. -/
def Flag.ofLetter? : Char → Option Flag
  | 'i' => some .caseInsensitive
  | 'm' => some .multiLine
  | 's' => some .dotAll
  | 'U' => some .swapGreed
  | 'u' => some .unicode
  | 'R' => some .crlf
  | 'x' => some .ignoreBlanks
  | _ => none

/-- Reads flags up to a colon or a closing parenthesis, which is left in the rest. `negated` holds
after a hyphen, and `dangling` right after it. -/
def flagsFrom (negated dangling : Bool) (change : FlagChange) :
    Text → Except Fault (FlagChange × Text)
  | [] => .error .flagMissing
  | c :: rest =>
    if c = ':' || c = ')' then
      if dangling then .error .flagNegationDangling else .ok (change, c :: rest)
    else if c = '-' then
      if negated then .error .flagNegationRepeated
      else flagsFrom true true change rest
    else
      match Flag.ofLetter? c with
      | none => .error .flagUnrecognized
      | some flag =>
        if (change.lookup flag).isSome then .error .flagDuplicate
        else flagsFrom negated false (change ++ [(flag, !negated)]) rest

/-- Reads the name of a group up to its closing angle bracket, which is not part of the rest. -/
def groupName (t : Text) : Except Fault (Text × Text) :=
  let name := t.takeWhile (· ≠ '>')
  let isNameChar := fun c : Char =>
    c = '_' || c = '.' || c = '[' || c = ']' || isAlphabetic c || isNumeric c
  let valid :=
    match name with
    | [] => true
    | first :: more => (first = '_' || isAlphabetic first) && more.all isNameChar
  if !valid then .error .groupNameInvalid
  else
    match t.dropWhile (· ≠ '>') with
    | [] => .error .groupNameUnclosed
    | _ :: rest => if name.isEmpty then .error .groupNameEmpty else .ok (name, rest)

/-- Reads the start of a group after its parenthesis: it opens the group, or sets flags. -/
def groupStart (p : Progress) (t : Text) : Except Fault (Progress × Text) :=
  let start := skip p.ignoreBlanks t
  let named := (start.after? "?P<".toList).or (start.after? "?<".toList)
  let isLookAround :=
    ["?=", "?!", "?<=", "?<!"].any fun mark => (start.after? mark.toList).isSome
  if isLookAround then .error .lookAround
  else
    match named with
    | some rest => do
      let (name, after) ← groupName rest
      if p.names.contains name then .error .groupNameDuplicate
      else .ok ({ p with names := name :: p.names }.openGroup true [], after)
    | none =>
      match start with
      | ['?'] => .error .groupUnclosed
      | '?' :: rest => do
        let (change, left) ← flagsFrom false false [] rest
        match left with
        | ':' :: after => .ok (p.openGroup false change, after)
        | _ =>
          if change.isEmpty then .error .repetitionMissing
          else .ok (p.setFlags change, left.tail)
      | _ => .ok (p.openGroup true [], start)

/-- Reads a decimal number with blanks around it. -/
def decimal (ignoreBlanks : Bool) (t : Text) : Except Fault Nat × Text :=
  let (digits, rest) := takeSkipping ignoreBlanks Char.isDigit (t.dropWhile isBlank)
  let value :=
    match Text.number? 10 digits with
    | none => .error .repetitionCountEmpty
    | some n => if n < Nat.pow 2 32 then .ok n else .error .decimalInvalid
  (value, rest.dropWhile isBlank)

/-- Reads the bounds of a counted repetition after its opening brace, up to the closing one. -/
def countBounds (ignoreBlanks : Bool) (t : Text) :
    Except Fault (Nat × Option Nat × Text) :=
  match skip ignoreBlanks t with
  | [] => .error .repetitionCountUnclosed
  | start =>
    let (least, rest) := decimal ignoreBlanks start
    match rest with
    | [] => .error .repetitionCountUnclosed
    | ',' :: more =>
      match skip ignoreBlanks more with
      | [] => .error .repetitionCountUnclosed
      | '\x7d' :: after => do
        let n ← least
        .ok (n, none, '\x7d' :: after)
      | upper => do
        let n ← least
        let (most, after) := decimal ignoreBlanks upper
        let m ← most
        .ok (n, some m, after)
    | _ => do
      let n ← least
      .ok (n, some n, rest)

/-- Reads a counted repetition after its opening brace. -/
def countedRepetition (p : Progress) (t : Text) : Except Fault (Progress × Text) :=
  if p.canRepeat then do
    let (least, most, rest) ← countBounds p.ignoreBlanks t
    match rest with
    | '\x7d' :: after =>
      let (greedy, left) :=
        match skip p.ignoreBlanks after with
        | '?' :: more => (false, more)
        | more => (true, more)
      if most.all (least ≤ ·) then do
        let p ← p.repeatLast least most greedy
        .ok (p, left)
      else .error .repetitionCountInvalid
    | _ => .error .repetitionCountUnclosed
  else .error .repetitionMissing

/-- Reads a repetition operator after its character: a question mark may follow it. -/
def uncountedRepetition (p : Progress) (least : Nat) (most : Option Nat) (t : Text) :
    Except Fault (Progress × Text) :=
  match t with
  | '?' :: rest => (p.repeatLast least most false).map (·, rest)
  | rest => (p.repeatLast least most true).map (·, rest)

/-- The tree of a primitive. -/
def Primitive.toTree : Primitive → Tree
  | .literal l => .literal l
  | .dot => .dot
  | .assertion a => .assertion a
  | .shorthand name negated => .shorthand name negated
  | .property query negated => .property query negated

/-- Reads one part of a pattern, of which there is at least one character. -/
def readPart (p : Progress) (c : Char) (rest : Text) : Except Fault (Progress × Text) :=
  match c with
  | '(' => groupStart p rest
  | ')' => p.closeGroup.map (·, rest)
  | '|' => .ok (p.endBranch, rest)
  | '[' => (bracketedClass p.ignoreBlanks (c :: rest)).map fun (tree, left) => (p.push tree, left)
  | '?' => uncountedRepetition p 0 (some 1) rest
  | '*' => uncountedRepetition p 0 none rest
  | '+' => uncountedRepetition p 1 none rest
  | '\x7b' => countedRepetition p rest
  | _ =>
    (primitive p.ignoreBlanks (c :: rest)).map fun (part, left) => (p.push part.toTree, left)

/-- Reads a pattern to its end. Every round reads at least one character, so `fuel` need not exceed
their number. -/
def readFrom : (fuel : Nat) → Progress → Text → Except Fault Tree
  | 0, _, _ => .error .groupUnclosed
  | fuel + 1, p, t =>
    match skip p.ignoreBlanks t with
    | [] => if p.groups.isEmpty then .ok p.content else .error .groupUnclosed
    | c :: rest => do
      let (p, left) ← readPart p c rest
      readFrom fuel p left

/-- Reads a pattern. -/
def Tree.read (t : Text) : Except Fault Tree := do
  let tree ← readFrom (t.length + 1) .start t
  if nestLimit < tree.depth then .error .nestedTooDeep else .ok tree

end MacroBody.Pattern
