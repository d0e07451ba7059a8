import MacroBody.Settings.Tree

/-!
# Paths to settings

A path leads to a setting: a key, then keys after dots and indices in brackets. `Setting.assign` sets
what a path leads to and makes the tables and lists that are missing on the way.
-/

namespace MacroBody

/-- One step into a tree of settings. -/
inductive PathStep
  | key (name : Text)
  | index (n : Int)
  deriving DecidableEq, Repr

namespace PathStep

/-- Whether `c` may stand in a key of a path. -/
def isKeyChar (c : Char) : Bool :=
  c.isAlphanum || c = ' ' || c = '_' || c = '-'

/-- Reads a key. -/
def key? (t : Text) : Option (PathStep × Text) :=
  let name := t.takeWhile isKeyChar
  if name.isEmpty then none else some (.key name, t.dropWhile isKeyChar)

/-- Reads an index up to its closing bracket. -/
def index? (t : Text) : Option (PathStep × Text) :=
  let skip := fun u : Text => u.dropWhile fun c => c = ' ' || c = '\t' || c = '\r' || c = '\n'
  let start := skip t
  let (negative, digits) :=
    match start with
    | '-' :: rest => (true, rest)
    | _ => (false, start)
  match Text.number? 10 (digits.takeWhile Char.isDigit), skip (digits.dropWhile Char.isDigit) with
  | some n, ']' :: rest =>
    if negative then (if n ≤ Nat.pow 2 63 then some (.index (-(n : Int)), rest) else none)
    else if n < Nat.pow 2 63 then some (.index n, rest)
    else none
  | _, _ => none

/-- Reads the steps after the first key. Every step has at least one character. -/
def stepsFrom? : (fuel : Nat) → Text → Option (List PathStep)
  | _, [] => some []
  | 0, _ => none
  | fuel + 1, '.' :: rest => do
    let (step, left) ← key? rest
    let steps ← stepsFrom? fuel left
    some (step :: steps)
  | fuel + 1, '[' :: rest => do
    let (step, left) ← index? rest
    let steps ← stepsFrom? fuel left
    some (step :: steps)
  | _, _ => none

/-- Reads a path. -/
def read? (t : Text) : Option (List PathStep) := do
  let (first, rest) ← key? t
  let steps ← stepsFrom? t.length rest
  some (first :: steps)

end PathStep

/-- Sets what a path leads to. At the end of the path a table is merged into the one that is there; an
item of a list is replaced. -/
def Setting.assign (value : Setting) : List PathStep → Setting → Setting
  | [], _ => value
  | [.key name], s => s.change name fun found => overlay value (found.getD (.table []))
  | .key name :: rest, s => s.change name fun found => assign value rest (found.getD nil)
  | .index n :: rest, s => s.changeItem n (assign value rest)

end MacroBody
