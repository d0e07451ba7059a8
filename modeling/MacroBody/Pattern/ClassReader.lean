import MacroBody.Pattern.Escape

/-!
# Reading character classes

A bracketed class holds characters, ranges, named classes, further bracketed classes and the
operations between them. It is read in one pass with a stack of what is open: a bracket, or an
operation that waits for its right side. Operations associate to the left and bind weaker than
juxtaposition.
-/

namespace MacroBody.Pattern

/-- What is open while a class is read. -/
inductive ClassFrame
  /-- A bracket, with the items read before it, last first. -/
  | opened (before : List ClassTree) (negated : Bool)
  /-- An operation, with its left side. -/
  | operation (op : ClassOp) (left : ClassTree)

/-- The named class of ASCII characters. -/
def AsciiClass.ofName? (name : Text) : Option AsciiClass :=
  match String.ofList name with
  | "alnum" => some .alnum
  | "alpha" => some .alpha
  | "ascii" => some .ascii
  | "blank" => some .blank
  | "cntrl" => some .cntrl
  | "digit" => some .digit
  | "graph" => some .graph
  | "lower" => some .lower
  | "print" => some .print
  | "punct" => some .punct
  | "space" => some .space
  | "upper" => some .upper
  | "word" => some .word
  | "xdigit" => some .xdigit
  | _ => none

/-- Reads a named ASCII class after its bracket. Whatever is not one is left to be read as a nested
class. -/
def asciiClass? (t : Text) : Option (ClassTree × Text) :=
  match t with
  | ':' :: rest =>
    let (negated, rest) :=
      match rest with
      | '^' :: more => (true, more)
      | _ => (false, rest)
    match rest.dropWhile (· ≠ ':') with
    | ':' :: ']' :: after =>
      (AsciiClass.ofName? (rest.takeWhile (· ≠ ':'))).map fun name => (.ascii name negated, after)
    | _ => none
  | _ => none

/-- Reads the start of a class after its bracket: the negation, hyphens that stand for themselves,
and a closing bracket that stands for itself because it comes first. The items are given last
first. -/
def classStart (ignoreBlanks : Bool) (t : Text) : Except Fault (Bool × List ClassTree × Text) :=
  let start := skip ignoreBlanks t
  let (negated, start) :=
    match start with
    | '^' :: rest => (true, skip ignoreBlanks rest)
    | _ => (false, start)
  let (hyphens, rest) := takeSkipping ignoreBlanks (· = '-') start
  let items := hyphens.map fun c => ClassTree.literal ⟨c, false⟩
  match rest with
  | [] => .error .classUnclosed
  | ']' :: more =>
    if items.isEmpty then
      match skip ignoreBlanks more with
      | [] => .error .classUnclosed
      | after => .ok (negated, [.literal ⟨']', false⟩], after)
    else .ok (negated, items, rest)
  | _ => .ok (negated, items, rest)

/-- Reads one character or escape of a class. -/
def classPrimitive (ignoreBlanks : Bool) (t : Text) : Except Fault (Primitive × Text) :=
  match t with
  | [] => .error .classUnclosed
  | '\\' :: rest => escape ignoreBlanks rest
  | c :: rest => .ok (.literal ⟨c, false⟩, rest)

/-- The class item that a primitive stands for. -/
def Primitive.toItem : Primitive → Except Fault ClassTree
  | .literal l => .ok (.literal l)
  | .shorthand name negated => .ok (.shorthand name negated)
  | .property query negated => .ok (.property query negated)
  | _ => .error .classEscapeInvalid

/-- The literal that a primitive stands for at the end of a range. -/
def Primitive.toLiteral : Primitive → Except Fault Literal
  | .literal l => .ok l
  | _ => .error .classRangeLiteral

/-- The character after a hyphen, past ignored blanks and the mark of a comment. -/
def peekPast (ignoreBlanks : Bool) (t : Text) : Option Char :=
  if ignoreBlanks then
    match t.dropWhile isBlank with
    | '#' :: rest => (rest.dropWhile isBlank).head?
    | rest => rest.head?
  else t.head?

/-- Reads a single item or a range. A hyphen before a closing bracket or another hyphen makes no
range. -/
def classRange (ignoreBlanks : Bool) (t : Text) : Except Fault (ClassTree × Text) := do
  let (first, rest) ← classPrimitive ignoreBlanks t
  match skip ignoreBlanks rest with
  | [] => .error .classUnclosed
  | '-' :: after =>
    let next := peekPast ignoreBlanks after
    if next = some ']' || next = some '-' then
      let item ← first.toItem
      .ok (item, '-' :: after)
    else
      match skip ignoreBlanks after with
      | [] => .error .classUnclosed
      | more =>
        let (last, left) ← classPrimitive ignoreBlanks more
        let lo ← first.toLiteral
        let hi ← last.toLiteral
        if lo.char ≤ hi.char then .ok (.range lo hi, left) else .error .classRangeInvalid
  | rest =>
    let item ← first.toItem
    .ok (item, rest)

/-- Completes an operation that waits for its right side. -/
def closeOperation (stack : List ClassFrame) (right : ClassTree) : ClassTree × List ClassFrame :=
  match stack with
  | .operation op left :: below => (.op op left right, below)
  | _ => (right, stack)

/-- Reads a class up to the bracket that closes it. `items` are the items read so far, last first;
every round reads at least one character, so `fuel` need not exceed their number. -/
def classFrom (ignoreBlanks : Bool) :
    (fuel : Nat) → List ClassFrame → (items : List ClassTree) → Text →
      Except Fault (Tree × Text)
  | 0, _, _, _ => .error .classUnclosed
  | fuel + 1, stack, items, t =>
    let operate := fun (op : ClassOp) (rest : Text) =>
      let (left, below) := closeOperation stack (.ofItems items.reverse)
      classFrom ignoreBlanks fuel (.operation op left :: below) [] rest
    match skip ignoreBlanks t with
    | [] => .error .classUnclosed
    | '[' :: rest =>
      match if stack.isEmpty then none else asciiClass? rest with
      | some (item, after) => classFrom ignoreBlanks fuel stack (item :: items) after
      | none => do
        let (negated, inner, after) ← classStart ignoreBlanks rest
        classFrom ignoreBlanks fuel (.opened items negated :: stack) inner after
    | ']' :: rest =>
      match closeOperation stack (.ofItems items.reverse) with
      | (content, .opened before negated :: below) =>
        if below.isEmpty then .ok (.bracketed negated content, rest)
        else classFrom ignoreBlanks fuel below (.bracketed negated content :: before) rest
      | _ => .error .classUnclosed
    | '&' :: '&' :: rest => operate .intersection rest
    | '-' :: '-' :: rest => operate .difference rest
    | '~' :: '~' :: rest => operate .symmetricDifference rest
    | rest => do
      let (item, after) ← classRange ignoreBlanks rest
      classFrom ignoreBlanks fuel stack (item :: items) after

/-- Reads a class that starts with its bracket. -/
def bracketedClass (ignoreBlanks : Bool) (t : Text) : Except Fault (Tree × Text) :=
  classFrom ignoreBlanks (t.length + 1) [] [] t

end MacroBody.Pattern
