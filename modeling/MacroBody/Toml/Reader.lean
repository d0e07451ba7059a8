import MacroBody.Toml.Moment
import MacroBody.Toml.Value

/-!
# Reading settings documents

A settings document is a sequence of lines: blank lines, comments, headers that open a table, and
keys with their values. Values are texts in four forms of quotes, integers, floating point numbers,
truth values, dates and times, arrays that may run over several lines, and tables on one line. How
deep values are nested and how many parts a key has is limited. A reader takes what it needs from the
start of a text and gives back the rest; a text that it cannot read gives nothing, and so does the
whole document.
-/

namespace MacroBody.Toml

/-- `t` without its leading spaces and tabs. -/
def skipSpace (t : Text) : Text :=
  t.dropWhile fun c => c = ' ' || c = '\t'

/-- Whether `c` may stand in a comment or a text as it is. -/
def isPlain (c : Char) : Bool :=
  c = '\t' || (0x20 ≤ c.toNat && c.toNat ≠ 0x7f)

/-- Reads the end of a line. -/
def newline? : Text → Option Text
  | '\n' :: rest => some rest
  | '\r' :: '\n' :: rest => some rest
  | _ => none

/-- `t` without a leading comment. -/
def skipComment (t : Text) : Text :=
  match t with
  | '#' :: rest => rest.dropWhile isPlain
  | _ => t

/-- Reads what may follow a header or a value on its line. -/
def lineEnd? (t : Text) : Option Text :=
  match skipComment (skipSpace t) with
  | [] => some []
  | rest => newline? rest

/-- `t` without leading spaces, line ends and comments. -/
def skipLines : (fuel : Nat) → Text → Text
  | 0, t => t
  | fuel + 1, t =>
    let rest := skipComment (skipSpace t)
    match newline? rest with
    | some more => skipLines fuel more
    | none => rest

/-- The character with the given hexadecimal digits. -/
def codeChar? (digits : Text) : Option Char :=
  match Text.number? 16 (digits.map Char.toLower) with
  | some n => if n.isValidChar then some (Char.ofNat n) else none
  | none => none

/-- Reads an escape after its backslash. -/
def escape? : Text → Option (Char × Text)
  | 'b' :: rest => some ('\x08', rest)
  | 't' :: rest => some ('\t', rest)
  | 'n' :: rest => some ('\n', rest)
  | 'f' :: rest => some ('\x0c', rest)
  | 'r' :: rest => some ('\r', rest)
  | '"' :: rest => some ('"', rest)
  | '\\' :: rest => some ('\\', rest)
  | 'u' :: rest =>
    if rest.length < 4 then none else (codeChar? (rest.take 4)).map (·, rest.drop 4)
  | 'U' :: rest =>
    if rest.length < 8 then none else (codeChar? (rest.take 8)).map (·, rest.drop 8)
  | _ => none

/-- Reads a text up to its closing double quote; `seen` is what was read, last character first. -/
def basicText? : (fuel : Nat) → (seen : Text) → Text → Option (Text × Text)
  | 0, _, _ => none
  | _ + 1, _, [] => none
  | fuel + 1, seen, c :: rest =>
    if c = '"' then some (seen.reverse, rest)
    else if c = '\\' then
      match escape? rest with
      | some (d, more) => basicText? fuel (d :: seen) more
      | none => none
    else if isPlain c then basicText? fuel (c :: seen) rest
    else none

/-- Reads a text up to its closing single quote. -/
def literalText? (t : Text) : Option (Text × Text) :=
  let content := t.takeWhile (· ≠ '\'')
  match t.dropWhile (· ≠ '\'') with
  | [] => none
  | _ :: rest => if content.all isPlain then some (content, rest) else none

/-- Reads the three quotes that end a text of several lines. Up to two more may stand before them. -/
def closingQuotes? (quote : Char) (t : Text) : Option (Text × Text) :=
  let count := (t.takeWhile (· = quote)).length
  if 3 ≤ count then
    let extra := min 2 (count - 3)
    some (List.replicate extra quote, t.drop (3 + extra))
  else none

/-- `t` without leading spaces, tabs and line ends. -/
def skipBreaks : (fuel : Nat) → Text → Text
  | 0, t => t
  | fuel + 1, t =>
    match newline? (skipSpace t) with
    | some more => skipBreaks fuel more
    | none => skipSpace t

/-- Reads a text of several lines after its opening quotes; `seen` is what was read, last character
first. Between double quotes a backslash escapes, and at the end of a line it removes the blanks and
line ends that follow. -/
def linesText? (quote : Char) : (fuel : Nat) → (seen : Text) → Text → Option (Text × Text)
  | 0, _, _ => none
  | _ + 1, _, [] => none
  | fuel + 1, seen, c :: rest =>
    match closingQuotes? quote (c :: rest) with
    | some (extra, more) => some (seen.reverse ++ extra, more)
    | none =>
      if c = '\\' && quote = '"' then
        match newline? (skipSpace rest) with
        | some more => linesText? quote fuel seen (skipBreaks (more.length + 1) more)
        | none =>
          match escape? rest with
          | some (d, more) => linesText? quote fuel (d :: seen) more
          | none => none
      else
        match newline? (c :: rest) with
        | some more => linesText? quote fuel ('\n' :: seen) more
        | none => if isPlain c then linesText? quote fuel (c :: seen) rest else none

/-- Reads a text that starts with its quotes. -/
def text? (t : Text) : Option (Text × Text) :=
  let lines := fun (quote : Char) (rest : Text) =>
    linesText? quote (t.length + 1) [] ((newline? rest).getD rest)
  match t with
  | '"' :: '"' :: '"' :: rest => lines '"' rest
  | '\'' :: '\'' :: '\'' :: rest => lines '\'' rest
  | '"' :: rest => basicText? (t.length + 1) [] rest
  | '\'' :: rest => literalText? rest
  | _ => none

/-- The digits of a text in which single underscores may stand between digits. -/
def digits? (isDigit : Char → Bool) (t : Text) : Option Text :=
  let groups := t.splitOn '_'
  if groups.all fun g => !g.isEmpty && g.all isDigit then some groups.flatten else none

/-- The digits of a decimal number, which has no leading zero. -/
def decimalDigits? (t : Text) : Option Text :=
  (digits? Char.isDigit t).filter fun ds => ds.length = 1 || ds.head? ≠ some '0'

/-- The sign at the start of a number, and the rest. -/
def signOf (t : Text) : Bool × Text :=
  match t with
  | '-' :: rest => (true, rest)
  | '+' :: rest => (false, rest)
  | _ => (false, t)

/-- The integer that a text is. It must fit into 64 bits. -/
def integer? (t : Text) : Option Int :=
  let ofRadix := fun (radix : Nat) (digits : Text) => do
    let isDigit := fun c : Char => (Text.digit? radix c.toLower).isSome
    let ds ← digits? isDigit digits
    let n ← Text.number? radix (ds.map Char.toLower)
    if n < Nat.pow 2 63 then some (n : Int) else none
  match t with
  | '0' :: 'x' :: digits => ofRadix 16 digits
  | '0' :: 'o' :: digits => ofRadix 8 digits
  | '0' :: 'b' :: digits => ofRadix 2 digits
  | _ => do
    let (negative, digits) := signOf t
    let ds ← decimalDigits? digits
    let n ← Text.number? 10 ds
    if negative then (if n ≤ Nat.pow 2 63 then some (-(n : Int)) else none)
    else if n < Nat.pow 2 63 then some (n : Int)
    else none

/-- The floating point number that a text is. A positive number must not be too large; a negative one
that is too large counts as infinite. -/
def float? (t : Text) : Option Binary64 :=
  let (negative, rest) := signOf t
  match String.ofList rest with
  | "inf" => some (.infinite negative)
  | "nan" => some .nan
  | _ => do
    let isMark := fun c : Char => c = 'e' || c = 'E'
    let mantissa := rest.takeWhile (!isMark ·)
    let exponent? :=
      match rest.dropWhile (!isMark ·) with
      | [] => none
      | _ :: more => some more
    let whole ← decimalDigits? (mantissa.takeWhile (· ≠ '.'))
    let fraction ←
      match mantissa.dropWhile (· ≠ '.') with
      | [] => if exponent?.isSome then some [] else none
      | _ :: places => digits? Char.isDigit places
    let power ←
      match exponent? with
      | none => some (0 : Int)
      | some e => do
        let (negative, digits) := signOf e
        let ds ← digits? Char.isDigit digits
        let n ← Text.number? 10 ds
        some (if negative then -(n : Int) else n)
    let digits ← Text.number? 10 (whole ++ fraction)
    let f := Binary64.ofDecimal negative digits (power - fraction.length)
    if f = .infinite false then none else some f

/-- Reads a number or a truth value. -/
def word? (t : Text) : Option (Value × Text) :=
  let isWordChar := fun c : Char =>
    c.isAlphanum || c = '_' || c = '+' || c = '-' || c = '.' || c = ':'
  let word := t.takeWhile isWordChar
  let rest := t.dropWhile isWordChar
  match String.ofList word with
  | "true" => some (.boolean true, rest)
  | "false" => some (.boolean false, rest)
  | _ =>
    match integer? word with
    | some n => some (.integer n, rest)
    | none => (float? word).map fun f => (.float f, rest)

/-- Reads one part of a key. -/
def keyPart? (t : Text) : Option (Text × Text) :=
  match t with
  | '"' :: rest => basicText? (t.length + 1) [] rest
  | '\'' :: rest => literalText? rest
  | _ =>
    let isBare := fun c : Char => c.isAlphanum || c = '_' || c = '-'
    let part := t.takeWhile isBare
    if part.isEmpty then none else some (part, t.dropWhile isBare)

/-- A key has fewer parts, and a value fewer levels of arrays and tables. -/
def nestingLimit : Nat := 80

/-- Reads the parts of a key with dots between them, and the blanks around it. The last part is given
apart. -/
def keyParts? : (fuel : Nat) → Text → Option (List Text × Text × Text)
  | 0, _ => none
  | fuel + 1, t => do
    let (part, rest) ← keyPart? (skipSpace t)
    match skipSpace rest with
    | '.' :: more => do
      let (path, last, left) ← keyParts? fuel more
      some (part :: path, last, left)
    | left => some ([], part, left)

/-- Reads a key: the parts before the last, and the last. -/
def key? (t : Text) : Option (List Text × Text × Text) :=
  (keyParts? (t.length + 1) t).filter fun (path, _, _) => path.length + 1 < nestingLimit

mutual

/-- Reads a value that stands inside `depth` arrays and tables. -/
def value? (depth : Nat) : (fuel : Nat) → Text → Option (Value × Text)
  | 0, _ => none
  | fuel + 1, t =>
    match t with
    | '[' :: rest =>
      if depth + 1 < nestingLimit then arrayFrom? (depth + 1) fuel [] (skipLines t.length rest)
      else none
    | '\x7b' :: rest =>
      if depth + 1 < nestingLimit then
        match skipSpace rest with
        | '\x7d' :: after => some (.table [], after)
        | more => inlineFrom? (depth + 1) fuel [] more
      else none
    | '"' :: _ => (text? t).map fun (s, left) => (.text s, left)
    | '\'' :: _ => (text? t).map fun (s, left) => (.text s, left)
    | _ =>
      match Moment.read? t with
      | some (m, left) => some (.text m.toText, left)
      | none => word? t

/-- Reads the items of an array up to its closing bracket; `items` are those read, last first. -/
def arrayFrom? (depth : Nat) : (fuel : Nat) → (items : List Value) → Text → Option (Value × Text)
  | 0, _, _ => none
  | fuel + 1, items, t =>
    match t with
    | ']' :: rest => some (.array items.reverse, rest)
    | _ => do
      let (v, rest) ← value? depth fuel t
      match skipLines rest.length rest with
      | ',' :: more => arrayFrom? depth fuel (v :: items) (skipLines more.length more)
      | ']' :: more => some (.array (v :: items).reverse, more)
      | _ => none

/-- Reads the entries of a table on one line up to its closing brace. -/
def inlineFrom? (depth : Nat) : (fuel : Nat) → Entries → Text → Option (Value × Text)
  | 0, _, _ => none
  | fuel + 1, entries, t => do
    let (path, key, rest) ← key? t
    match rest with
    | '=' :: more => do
      let (v, left) ← value? depth fuel (skipSpace more)
      let entries ← entries.setValue path key v
      match skipSpace left with
      | ',' :: after => inlineFrom? depth fuel entries after
      | '\x7d' :: after => some (.table (Item.entriesToValues entries), after)
      | _ => none
    | _ => none

end

/-- What has been read of a document: its entries, and the table that the last header opened. -/
structure Progress where
  entries : Entries
  /-- The path to the open table. -/
  current : List Text

/-- Sets a value in the table that the last header opened. -/
def Progress.setValue (p : Progress) (path : List Text) (key : Text) (v : Value) :
    Option Progress :=
  let inside := fun (_ : Mark) (inner : Entries) => inner.setValue path key v
  (Entries.change .implied inside p.current .header p.entries).map fun entries =>
    { p with entries := entries }

/-- Reads a header after its bracket. -/
def header? (p : Progress) (t : Text) : Option (Progress × Text) :=
  match t with
  | '[' :: rest => do
    let (path, key, left) ← key? rest
    match left with
    | ']' :: ']' :: more => do
      let entries ← p.entries.addTable path key
      let after ← lineEnd? more
      some (⟨entries, path ++ [key]⟩, after)
    | _ => none
  | _ => do
    let (path, key, left) ← key? t
    match left with
    | ']' :: more => do
      let entries ← p.entries.openTable path key
      let after ← lineEnd? more
      some (⟨entries, path ++ [key]⟩, after)
    | _ => none

/-- Reads a key with its value. -/
def keyValue? (p : Progress) (t : Text) : Option (Progress × Text) := do
  let (path, key, left) ← key? t
  match left with
  | '=' :: rest => do
    let (v, more) ← value? 0 (rest.length + 1) (skipSpace rest)
    let p ← p.setValue path key v
    let after ← lineEnd? more
    some (p, after)
  | _ => none

/-- Reads the lines of a document. Every round reads at least one character. -/
def linesFrom? : (fuel : Nat) → Progress → Text → Option Entries
  | 0, _, _ => none
  | fuel + 1, p, t =>
    match skipLines t.length t with
    | [] => some p.entries
    | '[' :: rest => do
      let (p, after) ← header? p rest
      linesFrom? fuel p after
    | rest => do
      let (p, after) ← keyValue? p rest
      linesFrom? fuel p after

/-- Reads a document: its keys with their values. A mark of the byte order before it does not
count. -/
def read? (t : Text) : Option (List (Text × Value)) :=
  let content := if t.head? = some '\ufeff' then t.tail else t
  (linesFrom? (content.length + 1) ⟨[], []⟩ content).map Item.entriesToValues

end MacroBody.Toml
