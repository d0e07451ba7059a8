import MacroBody.Character.LetterTables
import MacroBody.Character.Set
import MacroBody.Character.SymbolTables

/-!
# General categories

Every code point has one general category. The categories are grouped into letters, marks, numbers,
punctuation, symbols, separators and the rest; each category and each group can be asked for by name.
-/

namespace MacroBody

namespace Category

/-- The union of several tables. -/
def join (tables : List (List (Nat × Nat × Nat))) : CharSet :=
  .table tables.flatten

/-- Letters with case. -/
def casedLetter : CharSet :=
  join [uppercaseLetter, lowercaseLetter, titlecaseLetter]

/-- Letters. -/
def letter : CharSet :=
  join [uppercaseLetter, lowercaseLetter, titlecaseLetter, modifierLetter, otherLetter]

/-- Marks. -/
def mark : CharSet :=
  join [nonspacingMark, spacingMark, enclosingMark]

/-- Characters that denote numbers. -/
def number : CharSet :=
  join [decimalNumber, letterNumber, otherNumber]

/-- Punctuation. -/
def punctuation : CharSet :=
  join [connectorPunctuation, dashPunctuation, openPunctuation, closePunctuation,
    initialPunctuation, finalPunctuation, otherPunctuation]

/-- Symbols. -/
def symbol : CharSet :=
  join [mathSymbol, currencySymbol, modifierSymbol, otherSymbol]

/-- Separators. -/
def separator : CharSet :=
  join [spaceSeparator, lineSeparator, paragraphSeparator]

/-- Code points that are in use, or reserved for private use. -/
def assigned : CharSet :=
  [letter, mark, number, punctuation, symbol, separator,
    join [control, format, surrogate, privateUse]].foldl .union .empty

/-- Control and format characters, and code points without a character. -/
def other : CharSet :=
  .union (join [control, format, surrogate, privateUse]) (.compl assigned)

/-- Every general category that a character can have, under its names. -/
def all : List (List String × CharSet) := [
  (["any"], .compl .empty),
  (["ascii"], .ascii),
  (["assigned"], assigned),
  (["c", "other"], other),
  (["cc", "control", "cntrl"], .table control),
  (["cf", "format"], .table format),
  (["cn", "unassigned"], .compl assigned),
  (["co", "privateuse"], .table privateUse),
  (["l", "letter"], letter),
  (["lc", "casedletter"], casedLetter),
  (["ll", "lowercaseletter"], .table lowercaseLetter),
  (["lm", "modifierletter"], .table modifierLetter),
  (["lo", "otherletter"], .table otherLetter),
  (["lt", "titlecaseletter"], .table titlecaseLetter),
  (["lu", "uppercaseletter"], .table uppercaseLetter),
  (["m", "mark", "combiningmark"], mark),
  (["mc", "spacingmark"], .table spacingMark),
  (["me", "enclosingmark"], .table enclosingMark),
  (["mn", "nonspacingmark"], .table nonspacingMark),
  (["n", "number"], number),
  (["nd", "decimalnumber", "digit"], .table decimalNumber),
  (["nl", "letternumber"], .table letterNumber),
  (["no", "othernumber"], .table otherNumber),
  (["p", "punctuation", "punct"], punctuation),
  (["pc", "connectorpunctuation"], .table connectorPunctuation),
  (["pd", "dashpunctuation"], .table dashPunctuation),
  (["pe", "closepunctuation"], .table closePunctuation),
  (["pf", "finalpunctuation"], .table finalPunctuation),
  (["pi", "initialpunctuation"], .table initialPunctuation),
  (["po", "otherpunctuation"], .table otherPunctuation),
  (["ps", "openpunctuation"], .table openPunctuation),
  (["s", "symbol"], symbol),
  (["sc", "currencysymbol"], .table currencySymbol),
  (["sk", "modifiersymbol"], .table modifierSymbol),
  (["sm", "mathsymbol"], .table mathSymbol),
  (["so", "othersymbol"], .table otherSymbol),
  (["z", "separator"], separator),
  (["zl", "lineseparator"], .table lineSeparator),
  (["zp", "paragraphseparator"], .table paragraphSeparator),
  (["zs", "spaceseparator"], .table spaceSeparator)]

end Category

end MacroBody
