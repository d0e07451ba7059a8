import MacroBody.Document.Yaml.Reading

/-!
# YAML scalars

A text is written as it is where a reader would give the same text back, and otherwise in the first
of the forms that can hold it: a text with a line end as a literal block, any other between single
quotes, and whatever these cannot hold between double quotes with escapes. Lines are never folded.
-/

namespace MacroBody.Yaml

/-- The forms of a scalar. -/
inductive Style
  | plain
  | singleQuoted
  | doubleQuoted
  | literal
  deriving DecidableEq, Repr

/-- Whether a character ends a line. -/
def isBreak (c : Char) : Bool :=
  c = '\n' || c = '\r' || c.toNat = 0x85 || c.toNat = 0x2028 || c.toNat = 0x2029

/-- Whether a character may be written as it is. -/
def isVisible (c : Char) : Bool :=
  let n := c.toNat
  n = 0x0a || (0x20 ≤ n && n ≤ 0x7e) ||
    (0xa0 ≤ n && n ≠ 0xfeff && n ≠ 0xfffe && n ≠ 0xffff)

/-- Whether somewhere in a text a character of one class is followed by one of another. -/
def hasPair (p q : Char → Bool) (t : Text) : Bool :=
  (t.zip t.tail).any fun (a, b) => p a && q b

/-- Whether a character is a space. -/
def isSpace (c : Char) : Bool :=
  c = ' '

/-- Whether a text starts with the mark of the start or the end of a document. -/
def startsWithMarker (t : Text) : Bool :=
  "---".toList.isPrefixOf t || "...".toList.isPrefixOf t

/-- Whether the first character of a text has a meaning of its own at the start of a scalar. A
question mark, a colon or a hyphen has one only before a space or the end. -/
def startsWithIndicator : Text → Bool
  | [] => false
  | c :: rest =>
    "#,[]\x7b\x7d&*!|>\x27\"%@`".toList.contains c ||
      ("?:-".toList.contains c && (rest.isEmpty || rest.head?.any isSpace))

/-- Whether a text holds a colon that would end a key, or a number sign that would start a comment. -/
def hasInnerIndicator (t : Text) : Bool :=
  hasPair (· = ':') isSpace t || t.getLast? = some ':' || hasPair isSpace (· = '#') t

/-- Whether a text can be written as it is. -/
def allowsPlain (t : Text) : Bool :=
  t.all (fun c => isVisible c && !isBreak c) && !t.head?.any isSpace && !t.getLast?.any isSpace &&
    !startsWithMarker t && !startsWithIndicator t && !hasInnerIndicator t

/-- Whether a text can be written between single quotes. -/
def allowsSingleQuoted (t : Text) : Bool :=
  t.all isVisible && !hasPair isBreak isSpace t && !hasPair isSpace isBreak t

/-- Whether a text can be written as a literal block. -/
def allowsLiteral (t : Text) : Bool :=
  !t.isEmpty && t.all isVisible && !hasPair isSpace isBreak t && !t.getLast?.any isSpace

/-- The form in which a text is written. -/
def styleOf (t : Text) : Style :=
  if t.contains '\n' then
    if allowsLiteral t then .literal else .doubleQuoted
  else if !isAmbiguous t && allowsPlain t then .plain
  else if allowsSingleQuoted t then .singleQuoted
  else .doubleQuoted

/-- A text in which every line but the first starts with the given spaces; a line without characters
has none. -/
def indentLines (spaces : Text) (afterBreak : Bool) : Text → Text
  | [] => []
  | c :: rest =>
    if isBreak c then c :: indentLines spaces true rest
    else (if afterBreak then spaces else []) ++ c :: indentLines spaces false rest

/-- A text between single quotes. -/
def singleQuoted (indent : Nat) (t : Text) : Text :=
  let spaces := List.replicate indent ' '
  let doubled := t.flatMap fun c => if c = '\x27' then [c, c] else [c]
  ['\x27'] ++ indentLines spaces false doubled ++ (if t.getLast?.any isBreak then spaces else []) ++
    ['\x27']

/-- A hexadecimal escape of the given width. -/
def hexEscape (mark : Char) (width : Nat) (c : Char) : Text :=
  ['\\', mark] ++ Text.padLeft '0' width ((Text.hex c.toNat).map Char.toUpper)

/-- The letter that stands for a character after a backslash. -/
def escapeLetter? (c : Char) : Option Char :=
  [(0x00, '0'), (0x07, 'a'), (0x08, 'b'), (0x09, 't'), (0x0a, 'n'), (0x0b, 'v'), (0x0c, 'f'),
    (0x0d, 'r'), (0x1b, 'e'), (0x22, '"'), (0x5c, '\\'), (0x85, 'N'), (0x2028, 'L'),
    (0x2029, 'P')].lookup c.toNat

/-- One character of a text between double quotes. -/
def doubleQuotedChar (c : Char) : Text :=
  match escapeLetter? c with
  | some letter => ['\\', letter]
  | none =>
    if isVisible c then [c]
    else if c.toNat ≤ 0xff then hexEscape 'x' 2 c
    else if c.toNat ≤ 0xffff then hexEscape 'u' 4 c
    else hexEscape 'U' 8 c

/-- A text between double quotes. -/
def doubleQuoted (t : Text) : Text :=
  ['"'] ++ t.flatMap doubleQuotedChar ++ ['"']

/-- What the head of a literal block says about the line ends at the end of a text: one is the rule,
none and several have a sign. -/
def chomping (t : Text) : Text :=
  match t.reverse with
  | [] => ['-']
  | [last] => if isBreak last then ['+'] else ['-']
  | last :: before :: _ => if !isBreak last then ['-'] else if isBreak before then ['+'] else []

/-- A text as a literal block. The indentation is told if the first line does not show it. -/
def literal (indent : Nat) (t : Text) : Text :=
  let hint : Text := if t.head?.any fun c => isSpace c || isBreak c then ['2'] else []
  ['|'] ++ hint ++ chomping t ++ ['\n'] ++ indentLines (List.replicate indent ' ') true t

/-- A text as a scalar whose further lines start with `indent` spaces. -/
def scalar (indent : Nat) (t : Text) : Text :=
  match styleOf t with
  | .plain => t
  | .singleQuoted => singleQuoted indent t
  | .doubleQuoted => doubleQuoted t
  | .literal => literal indent t

/-- A scalar and the end of its line. A literal block that keeps its own line end needs no other. -/
def scalarLine (indent : Nat) (t : Text) : Text :=
  let written := scalar indent t
  if styleOf t = .literal && t.getLast?.any isBreak then written else written ++ ['\n']

end MacroBody.Yaml
