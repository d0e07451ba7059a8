import MacroBody.Pattern.Tree
import MacroBody.Text.Basic

/-!
# Escapes

The smallest parts of a pattern: single characters and what a backslash introduces. Where blanks are
ignored, blanks and comments may stand between the characters of an escape; `skip` removes them, and
`takeSkipping` reads characters of a class with such blanks between them.
-/

namespace MacroBody.Pattern

/-- `t` without its leading blanks and comments; `inComment` says whether `t` starts inside one. -/
def skipBlanks (inComment : Bool) : Text → Text
  | [] => []
  | c :: rest =>
    if inComment then skipBlanks (c ≠ '\n') rest
    else if isBlank c then skipBlanks false rest
    else if c = '#' then skipBlanks true rest
    else c :: rest

/-- `t` without leading blanks and comments, if these are ignored. -/
def skip (ignoreBlanks : Bool) (t : Text) : Text :=
  if ignoreBlanks then skipBlanks false t else t

theorem length_skipBlanks_le (inComment : Bool) (t : Text) :
    (skipBlanks inComment t).length ≤ t.length := by
  induction t generalizing inComment with
  | nil => simp [skipBlanks]
  | cons c rest ih =>
    unfold skipBlanks
    split
    · exact Nat.le_succ_of_le (ih _)
    · split
      · exact Nat.le_succ_of_le (ih _)
      · split
        · exact Nat.le_succ_of_le (ih _)
        · exact Nat.le_refl _

theorem length_skip_le (ignoreBlanks : Bool) (t : Text) :
    (skip ignoreBlanks t).length ≤ t.length := by
  unfold skip
  split
  · exact length_skipBlanks_le _ _
  · exact Nat.le_refl _

/-- The characters of class `p` at the start of the text, with ignored blanks after each of them
left out, and the rest. -/
def takeSkipping (ignoreBlanks : Bool) (p : Char → Bool) : Text → Text × Text
  | [] => ([], [])
  | c :: rest =>
    if p c then
      let (taken, left) := takeSkipping ignoreBlanks p (skip ignoreBlanks rest)
      (c :: taken, left)
    else ([], c :: rest)
termination_by t => t.length
decreasing_by
  have := length_skip_le ignoreBlanks rest
  simp only [List.length_cons]
  omega

/-- What one character or escape stands for. -/
inductive Primitive
  | literal (l : Literal)
  | dot
  | assertion (a : Assertion)
  | shorthand (name : Shorthand) (negated : Bool)
  | property (query : PropertyQuery) (negated : Bool)

/-- The characters with a meaning of their own. -/
def isMeta (c : Char) : Bool :=
  "\\.+*?()|[]\x7b\x7d^$#&-~".toList.contains c

/-- The characters that a backslash may stand before without changing them. -/
def isEscapable (c : Char) : Bool :=
  isMeta c || (c.toNat < 0x80 && !c.isAlphanum && c ≠ '<' && c ≠ '>')

/-- Whether `c` is a hexadecimal digit of either case. -/
def isHexDigit (c : Char) : Bool :=
  (Text.digit? 16 c.toLower).isSome

/-- The character with the given hexadecimal digits. -/
def hexChar (digits : Text) : Except Fault Char :=
  match Text.number? 16 (digits.map Char.toLower) with
  | some n => if n.isValidChar then .ok (Char.ofNat n) else .error .hexInvalid
  | none => .error .hexInvalid

/-- Reads exactly `count` hexadecimal digits. -/
def hexDigits (ignoreBlanks : Bool) : (count : Nat) → Text → Except Fault (Text × Text)
  | 0, t => .ok ([], t)
  | _ + 1, [] => .error .escapeUnfinished
  | count + 1, c :: rest =>
    if isHexDigit c then do
      let (digits, left) ← hexDigits ignoreBlanks count (skip ignoreBlanks rest)
      .ok (c :: digits, left)
    else .error .hexInvalidDigit

/-- Reads a character given by its code, after the letter that announces it: a fixed number of
digits, or any number of them in braces. -/
def hexLiteral (ignoreBlanks : Bool) (letter : Char) (t : Text) :
    Except Fault (Literal × Text) :=
  match skip ignoreBlanks t with
  | [] => .error .escapeUnfinished
  | '\x7b' :: rest =>
    let (digits, left) := takeSkipping ignoreBlanks (· ≠ '\x7d') (skip ignoreBlanks rest)
    if digits.all isHexDigit then
      match left with
      | [] => .error .escapeUnfinished
      | _ :: after =>
        if digits.isEmpty then .error .hexEmpty
        else (hexChar digits).map (⟨·, false⟩, skip ignoreBlanks after)
    else .error .hexInvalidDigit
  | rest => do
    let count := if letter = 'x' then 2 else if letter = 'u' then 4 else 8
    let (digits, left) ← hexDigits ignoreBlanks count rest
    let c ← hexChar digits
    .ok (⟨c, letter = 'x'⟩, left)

/-- The texts before and after the first occurrence of the word `w`. -/
def cutWord? (w : Text) : Text → Option (Text × Text)
  | [] => none
  | c :: rest =>
    match Text.after? (c :: rest) w with
    | some after => some ([], after)
    | none => (cutWord? w rest).map fun (before, after) => (c :: before, after)

/-- A property query, and whether its operator negates it. -/
def propertyQuery (content : Text) : PropertyQuery × Bool :=
  match cutWord? "!=".toList content with
  | some (property, value) => (.valued property value, true)
  | none =>
    match (content.cut? (· = ':')).or (content.cut? (· = '=')) with
    | some (property, value) => (.valued property value, false)
    | none => (.named content, false)

/-- Reads a property class after its letter. -/
def propertyClass (ignoreBlanks negated : Bool) (t : Text) : Except Fault (Primitive × Text) :=
  match skip ignoreBlanks t with
  | [] => .error .escapeUnfinished
  | '\x7b' :: rest =>
    let (content, left) := takeSkipping ignoreBlanks (· ≠ '\x7d') (skip ignoreBlanks rest)
    match left with
    | [] => .error .escapeUnfinished
    | _ :: after =>
      let (query, flipped) := propertyQuery content
      .ok (.property query (negated != flipped), after)
  | '\\' :: _ => .error .propertyClassInvalid
  | c :: rest => .ok (.property (.named [c]) negated, skip ignoreBlanks rest)

/-- Reads what follows a word boundary: the name of a special boundary in braces. If the braces
cannot hold a name, they belong to a repetition and nothing is read. -/
def boundary (ignoreBlanks : Bool) (t : Text) : Except Fault (Assertion × Text) :=
  match t with
  | '\x7b' :: rest =>
    match skip ignoreBlanks rest with
    | [] => .error .boundaryOrCountUnclosed
    | c :: more =>
      let isNameChar := fun d : Char => d.isAlpha || d = '-'
      if isNameChar c then
        let (name, left) := takeSkipping ignoreBlanks isNameChar (c :: more)
        match left with
        | '\x7d' :: after =>
          match String.ofList name with
          | "start" => .ok (.wordStart, after)
          | "end" => .ok (.wordEnd, after)
          | "start-half" => .ok (.wordStartHalf, after)
          | "end-half" => .ok (.wordEndHalf, after)
          | _ => .error .boundaryUnrecognized
        | _ => .error .boundaryUnclosed
      else .ok (.wordBoundary, t)
  | _ => .ok (.wordBoundary, t)

/-- The characters that have an escape letter. -/
def letterEscape? : Char → Option Char
  | 'a' => some '\x07'
  | 'f' => some '\x0c'
  | 't' => some '\t'
  | 'n' => some '\n'
  | 'r' => some '\r'
  | 'v' => some '\x0b'
  | _ => none

/-- Reads an escape after its backslash. -/
def escape (ignoreBlanks : Bool) (t : Text) : Except Fault (Primitive × Text) :=
  match t with
  | [] => .error .escapeUnfinished
  | c :: rest =>
    if c.isDigit then .error .backreference
    else
      match c with
      | 'x' | 'u' | 'U' =>
        (hexLiteral ignoreBlanks c rest).map fun (l, left) => (.literal l, left)
      | 'p' => propertyClass ignoreBlanks false rest
      | 'P' => propertyClass ignoreBlanks true rest
      | 'd' => .ok (.shorthand .digit false, rest)
      | 'D' => .ok (.shorthand .digit true, rest)
      | 's' => .ok (.shorthand .space false, rest)
      | 'S' => .ok (.shorthand .space true, rest)
      | 'w' => .ok (.shorthand .word false, rest)
      | 'W' => .ok (.shorthand .word true, rest)
      | 'A' => .ok (.assertion .startText, rest)
      | 'z' => .ok (.assertion .endText, rest)
      | 'b' => (boundary ignoreBlanks rest).map fun (a, left) => (.assertion a, left)
      | 'B' => .ok (.assertion .notWordBoundary, rest)
      | '<' => .ok (.assertion .wordStart, rest)
      | '>' => .ok (.assertion .wordEnd, rest)
      | _ =>
        if isEscapable c then .ok (.literal ⟨c, false⟩, rest)
        else
          match letterEscape? c with
          | some special => .ok (.literal ⟨special, false⟩, rest)
          | none => .error .escapeUnrecognized

/-- Reads one character or escape outside of classes. -/
def primitive (ignoreBlanks : Bool) (t : Text) : Except Fault (Primitive × Text) :=
  match t with
  | [] => .error .escapeUnfinished
  | '\\' :: rest => escape ignoreBlanks rest
  | '.' :: rest => .ok (.dot, rest)
  | '^' :: rest => .ok (.assertion .startLine, rest)
  | '$' :: rest => .ok (.assertion .endLine, rest)
  | c :: rest => .ok (.literal ⟨c, false⟩, rest)

end MacroBody.Pattern
