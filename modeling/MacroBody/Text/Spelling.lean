import MacroBody.Character.Current
import MacroBody.Text.Basic

/-!
# Other spellings of a text

A text in lower case, for comparisons without case. Upper case and title case letters become the
letters they fold to, except where folding goes to upper case. The dotted capital i becomes two
characters, and a capital sigma at the end of a word becomes the final form of the small letter.

A text between double quotes, such that every character can be seen: quotes and backslashes are
escaped, and so is a character that leaves no visible mark, may be left out where it cannot be shown,
or would join the one before it.
-/

namespace MacroBody.Text

/-! ## Lower case -/

/-- The lower case of one code point, apart from its neighbours. -/
def lowerCode (n : Nat) : Nat :=
  if 0x13a0 ≤ n && n ≤ 0x13ef then n + 0x97d0
  else if 0x13f0 ≤ n && n ≤ 0x13f5 then n + 8
  else if Binary.uppercase.contains n || CharSet.contains (.table Category.titlecaseLetter) n then
    foldCode n
  else (Current.lower? n).getD n

/-- Whether the nearest of the characters that count for case is one with case. -/
def nearestIsCased (neighbours : Text) : Bool :=
  match neighbours.dropWhile isCaseIgnorable with
  | c :: _ => isCased c
  | [] => false

/-- The lower case of a text, given the characters before it, last first. -/
def lowerFrom (before : Text) : Text → Text
  | [] => []
  | c :: rest =>
    let small : Text :=
      if c.toNat < 0x80 then [c.toLower]
      else if c.toNat = 0x130 then ['i', Char.ofNat 0x307]
      else if c = 'Σ' then
        if nearestIsCased before && !nearestIsCased rest then ['ς'] else ['σ']
      else [Char.ofNat (lowerCode c.toNat)]
    small ++ lowerFrom (c :: before) rest

/-- The text in lower case. -/
def toLower (t : Text) : Text :=
  lowerFrom [] t

/-! ## Quoted texts -/

/-- One character of a quoted text. -/
def quotedChar (c : Char) : Text :=
  match c with
  | '"' => "\\\"".toList
  | '\\' => "\\\\".toList
  | '\t' => "\\t".toList
  | '\r' => "\\r".toList
  | '\n' => "\\n".toList
  | '\x00' => "\\0".toList
  | _ =>
    if 0x20 ≤ c.toNat && c.toNat ≤ 0x7e then [c]
    else if isPrintable c && !isDefaultIgnorable c && !isExtendingMark c then [c]
    else "\\u\x7b".toList ++ hex c.toNat ++ "\x7d".toList

/-- The text between double quotes. -/
def quoted (t : Text) : Text :=
  ['"'] ++ t.flatMap quotedChar ++ ['"']

end MacroBody.Text
