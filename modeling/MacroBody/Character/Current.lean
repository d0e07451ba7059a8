import MacroBody.Character.Binary

/-!
# Characters of the current edition

The tables of letters, symbols, scripts and binary properties are those of edition 16 of the
character database, and classes of characters are built from them. Single characters of a text are
judged by edition 17: it adds characters, gives three letters an upper case, and takes one letter
out of those with case. The additions stand here, with the questions that are answered by both.
-/

namespace MacroBody

namespace Current

/-- The added alphabetic characters. -/
def alphabetic : CharSet :=
  .ofRanges [(0x88f, 0x88f), (0xc5c, 0xc5c), (0xcdc, 0xcdc), (0xa7ce, 0xa7cf), (0xa7d2, 0xa7d2),
    (0xa7d4, 0xa7d4), (0xa7f1, 0xa7f1), (0x10940, 0x10959), (0x10ec5, 0x10ec7),
    (0x10efa, 0x10efb), (0x11b60, 0x11b67), (0x11db0, 0x11ddb), (0x16ea0, 0x16eb8),
    (0x16ebb, 0x16ed3), (0x16ff2, 0x16ff6), (0x187f8, 0x187ff), (0x18d09, 0x18d1e),
    (0x18d80, 0x18df2), (0x1e6c0, 0x1e6de), (0x1e6e0, 0x1e6f5), (0x1e6fe, 0x1e6ff),
    (0x2b73a, 0x2b73f), (0x2cea2, 0x2cead), (0x323b0, 0x33479)]

/-- The added characters that denote numbers. -/
def number : CharSet :=
  .ofRanges [(0x11de0, 0x11de9), (0x16ff4, 0x16ff6)]

/-- The added marks that extend the character before them. -/
def graphemeExtend : CharSet :=
  .ofRanges [(0x1acf, 0x1add), (0x1ae0, 0x1aeb), (0x10efa, 0x10efb), (0x11b60, 0x11b60),
    (0x11b62, 0x11b64), (0x11b66, 0x11b66), (0x1e6e3, 0x1e6e3), (0x1e6e6, 0x1e6e6),
    (0x1e6ee, 0x1e6ef), (0x1e6f5, 0x1e6f5)]

/-- The added punctuation and symbols. -/
def symbol : CharSet :=
  .ofRanges [(0x20c1, 0x20c1), (0x2b96, 0x2b96), (0xfbc3, 0xfbd2), (0xfd90, 0xfd91),
    (0xfdc8, 0xfdce), (0x10ed0, 0x10ed8), (0x1ccfa, 0x1ccfc), (0x1ceba, 0x1ced0),
    (0x1cee0, 0x1cef0), (0x1f6d8, 0x1f6d8), (0x1f777, 0x1f77a), (0x1f8d0, 0x1f8d8),
    (0x1fa54, 0x1fa57), (0x1fa8a, 0x1fa8a), (0x1fa8e, 0x1fa8e), (0x1fac8, 0x1fac8),
    (0x1facd, 0x1facd), (0x1faea, 0x1faea), (0x1faef, 0x1faef), (0x1fbfa, 0x1fbfa)]

/-- The added characters with case. -/
def cased : CharSet :=
  .ofRanges [(0xa7ce, 0xa7cf), (0xa7d2, 0xa7d2), (0xa7d4, 0xa7d4), (0xa7f1, 0xa7f1),
    (0x16ea0, 0x16eb8), (0x16ebb, 0x16ed3)]

/-- The added modifier letters. -/
def modifierLetter : CharSet :=
  .ofRanges [(0xa7f1, 0xa7f1), (0x10ec5, 0x10ec5), (0x11dd9, 0x11dd9), (0x16ff2, 0x16ff3),
    (0x1e6ff, 0x1e6ff)]

/-- The lower case of an upper case letter that was added. -/
def lower? (n : Nat) : Option Nat :=
  if n = 0xa7ce || n = 0xa7d2 || n = 0xa7d4 then some (n + 1)
  else if 0x16ea0 ≤ n && n ≤ 0x16eb8 then some (n + 0x1b)
  else none

end Current

/-- Whether `c` is alphabetic. -/
def isAlphabetic (c : Char) : Bool :=
  Binary.alphabetic.contains c.toNat || Current.alphabetic.contains c.toNat

/-- Whether `c` denotes a number. -/
def isNumeric (c : Char) : Bool :=
  Category.number.contains c.toNat || Current.number.contains c.toNat

/-- Whether `c` leaves a visible mark of its own: control and format characters, unused code points
and all separators but the space do not. -/
def isPrintable (c : Char) : Bool :=
  c = ' ' ||
    [Category.letter, Category.mark, Category.number, Category.punctuation, Category.symbol,
      Current.alphabetic, Current.number, Current.graphemeExtend,
      Current.symbol].any (·.contains c.toNat)

/-- Whether `c` may be left out where it cannot be shown. -/
def isDefaultIgnorable (c : Char) : Bool :=
  CharSet.contains (.table Binary.defaultIgnorableCodePoint) c.toNat

/-- Whether `c` is a mark that extends the character before it. -/
def isExtendingMark (c : Char) : Bool :=
  (Category.mark.contains c.toNat && Binary.graphemeExtend.contains c.toNat) ||
    Current.graphemeExtend.contains c.toNat

/-- Whether `c` has case. The pharyngeal fricative has none, small though its letter looks. -/
def isCased (c : Char) : Bool :=
  (Binary.cased.contains c.toNat && c.toNat ≠ 0x295) || Current.cased.contains c.toNat

/-- Whether `c` does not count when the case of its neighbours is looked at. -/
def isCaseIgnorable (c : Char) : Bool :=
  Binary.caseIgnorable.contains c.toNat || Current.graphemeExtend.contains c.toNat ||
    Current.modifierLetter.contains c.toNat

end MacroBody
