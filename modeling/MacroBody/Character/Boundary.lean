import MacroBody.Character.Binary
import MacroBody.Character.ScriptTables

/-!
# Boundaries

Where a text may be divided into user-perceived characters, words and sentences depends on a class
that every character has in each of the three divisions. Most classes follow from the general
category, from binary properties and from a few characters that are named; the classes of characters
to which no rule applies are left out.
-/

namespace MacroBody

namespace Boundary

/-- The carriage return. -/
def carriageReturn : CharSet :=
  .single 0xd

/-- The line feed. -/
def lineFeed : CharSet :=
  .single 0xa

/-- The zero-width joiner. -/
def zeroWidthJoiner : CharSet :=
  .single 0x200d

/-- The marks that stand before the numbers they enclose. -/
def numberMarks : CharSet :=
  .ofRanges [(0x600, 0x605), (0x6dd, 0x6dd), (0x890, 0x891), (0x8e2, 0x8e2), (0x110bd, 0x110bd),
    (0x110cd, 0x110cd)]

/-- The full stops that may also stand inside a number or a name. -/
def fullStops : CharSet :=
  .ofRanges [(0x2e, 0x2e), (0x2024, 0x2024), (0xfe52, 0xfe52), (0xff0e, 0xff0e)]

namespace Cluster

/-- Vowels that join the syllable before them, in Hangul and in Kirat Rai. -/
def vowel : CharSet :=
  .ofRanges [(0x1160, 0x11a7), (0xd7b0, 0xd7c6), (0x16d63, 0x16d63), (0x16d67, 0x16d6a)]

/-- Characters that extend the one before them, whatever it is. -/
def extend : CharSet :=
  .union Binary.graphemeExtend (.table Binary.emojiModifier)

/-- Characters that join the one after them. -/
def prepend : CharSet :=
  .union (.table Binary.prependedConcatenationMark)
    (.ofRanges [(0xd4e, 0xd4e), (0x111c2, 0x111c3), (0x113d1, 0x113d1), (0x1193f, 0x1193f),
      (0x11941, 0x11941), (0x11a3a, 0x11a3a), (0x11a84, 0x11a89), (0x11d46, 0x11d46),
      (0x11f02, 0x11f02)])

/-- Controls, and format characters that join neither side. -/
def control : CharSet :=
  .diff
    (.union
      (Category.join [Category.control, Category.format, Category.lineSeparator,
        Category.paragraphSeparator])
      (.diff (.table Binary.defaultIgnorableCodePoint) Category.assigned))
    (.union (.union extend (.table Binary.prependedConcatenationMark))
      (.ofRanges [(0xa, 0xa), (0xd, 0xd), (0x200c, 0x200d)]))

/-- Spacing marks that join the character before them. -/
def spacing : CharSet :=
  .diff (.union (.table Category.spacingMark) (.ofRanges [(0xe33, 0xe33), (0xeb3, 0xeb3)]))
    (.union extend
      (.ofRanges [(0x102b, 0x102c), (0x1038, 0x1038), (0x1062, 0x1064), (0x1067, 0x106d),
        (0x1083, 0x1083), (0x1087, 0x108c), (0x108f, 0x108f), (0x109a, 0x109c), (0x1a61, 0x1a61),
        (0x1a63, 0x1a64), (0xaa7b, 0xaa7b), (0xaa7d, 0xaa7d), (0x11720, 0x11721)]))

/-- Hangul syllables that end in a vowel. -/
def openSyllable : CharSet :=
  .table [(0xac00, 0xd788, 28)]

/-- The classes for user-perceived characters, under their names. -/
def all : List (List String × CharSet) := [
  (["cn", "control"], control),
  (["cr"], carriageReturn),
  (["ex", "extend"], extend),
  (["l"], .ofRanges [(0x1100, 0x115f), (0xa960, 0xa97c)]),
  (["lf"], lineFeed),
  (["lv"], openSyllable),
  (["lvt"], .diff (.range 0xac00 0xd7a3) openSyllable),
  (["pp", "prepend"], prepend),
  (["ri", "regionalindicator"], .table Binary.regionalIndicator),
  (["sm", "spacingmark"], spacing),
  (["t"], .ofRanges [(0x11a8, 0x11ff), (0xd7cb, 0xd7fb)]),
  (["v"], vowel),
  (["zwj"], zeroWidthJoiner)]

end Cluster

namespace Word

/-- Characters that belong to the one before them. -/
def extend : CharSet :=
  .union Cluster.extend (.table Category.spacingMark)

/-- Katakana, and the marks that are written with it. -/
def katakana : CharSet :=
  .union (.table Script.katakana)
    (.ofRanges [(0x3031, 0x3035), (0x309b, 0x309c), (0x30a0, 0x30a0), (0x30fc, 0x30fc),
      (0xff70, 0xff70)])

/-- Hebrew letters. -/
def hebrewLetter : CharSet :=
  .inter (.table Script.hebrew) (.table Category.otherLetter)

/-- Characters of the scripts that are written without blanks between words and need a dictionary to
be divided. -/
def complexContext : CharSet :=
  .ofRanges [(0xe01, 0xe3a), (0xe40, 0xe4e), (0xe81, 0xe82), (0xe84, 0xe84), (0xe86, 0xe8a),
    (0xe8c, 0xea3), (0xea5, 0xea5), (0xea7, 0xebd), (0xec0, 0xec4), (0xec6, 0xec6),
    (0xec8, 0xece), (0xedc, 0xedf), (0x1000, 0x103f), (0x1050, 0x108f), (0x109a, 0x109f),
    (0x1780, 0x17d3), (0x17d7, 0x17d7), (0x17dc, 0x17dd), (0x1950, 0x196d), (0x1970, 0x1974),
    (0x1980, 0x19ab), (0x19b0, 0x19c9), (0x19da, 0x19da), (0x19de, 0x19df), (0x1a20, 0x1a5e),
    (0x1a60, 0x1a7c), (0x1aa0, 0x1aad), (0xa9e0, 0xa9ef), (0xa9fa, 0xa9fe), (0xaa60, 0xaac2),
    (0xaadb, 0xaadf), (0x11700, 0x1171a), (0x1171d, 0x1172b), (0x1173a, 0x1173b),
    (0x1173f, 0x11746)]

/-- Letters of words that are divided by blanks, and marks that stand between such letters. -/
def letter : CharSet :=
  .diff
    (.union Binary.alphabetic
      (.ofRanges [(0x2c2, 0x2c5), (0x2d2, 0x2d7), (0x2de, 0x2df), (0x2e5, 0x2eb), (0x2ed, 0x2ed),
        (0x2ef, 0x2ff), (0x55a, 0x55c), (0x55e, 0x55e), (0x58a, 0x58a), (0x5f3, 0x5f3),
        (0x70f, 0x70f), (0xa708, 0xa716), (0xa720, 0xa721), (0xa789, 0xa78a), (0xab5b, 0xab5b)]))
    ([.table Binary.ideographic, katakana, complexContext, .table Script.hiragana, extend,
      hebrewLetter].foldl .union .empty)

/-- The classes for words, under their names. -/
def all : List (List String × CharSet) := [
  (["le", "aletter"], letter),
  (["cr"], carriageReturn),
  (["dq", "doublequote"], .single 0x22),
  (["extend"], extend),
  (["ex", "extendnumlet"],
    .union (.table Category.connectorPunctuation) (.single 0x202f)),
  (["fo", "format"],
    .diff (.table Category.format)
      (.union (.union extend (.table Binary.prependedConcatenationMark))
        (.ofRanges [(0x200b, 0x200d)]))),
  (["hl", "hebrewletter"], hebrewLetter),
  (["ka", "katakana"], katakana),
  (["lf"], lineFeed),
  (["ml", "midletter"],
    .ofRanges [(0x3a, 0x3a), (0xb7, 0xb7), (0x387, 0x387), (0x55f, 0x55f), (0x5f4, 0x5f4),
      (0x2027, 0x2027), (0xfe13, 0xfe13), (0xfe55, 0xfe55), (0xff1a, 0xff1a)]),
  (["mn", "midnum"],
    .ofRanges [(0x2c, 0x2c), (0x3b, 0x3b), (0x37e, 0x37e), (0x589, 0x589), (0x60c, 0x60d),
      (0x66c, 0x66c), (0x7f8, 0x7f8), (0x2044, 0x2044), (0xfe10, 0xfe10), (0xfe14, 0xfe14),
      (0xfe50, 0xfe50), (0xfe54, 0xfe54), (0xff0c, 0xff0c), (0xff1b, 0xff1b)]),
  (["mb", "midnumlet"],
    .union fullStops (.ofRanges [(0x2018, 0x2019), (0xff07, 0xff07)])),
  (["nl", "newline"], .ofRanges [(0xb, 0xc), (0x85, 0x85), (0x2028, 0x2029)]),
  (["nu", "numeric"],
    .union (.table Category.decimalNumber) (.union numberMarks (.single 0x66b))),
  (["ri", "regionalindicator"], .table Binary.regionalIndicator),
  (["sq", "singlequote"], .single 0x27),
  (["wsegspace"],
    .diff (.table Category.spaceSeparator)
      (.ofRanges [(0xa0, 0xa0), (0x2007, 0x2007), (0x202f, 0x202f)])),
  (["zwj"], zeroWidthJoiner)]

end Word

namespace Sentence

/-- Characters that belong to the one before them. -/
def extend : CharSet :=
  .union (.union Binary.graphemeExtend (.table Category.spacingMark)) zeroWidthJoiner

/-- Lower case letters of the scripts where a sentence starts with upper case. -/
def lower : CharSet :=
  .diff Binary.lowercase
    (.union Binary.graphemeExtend (.ofRanges [(0x10d0, 0x10fa), (0x10fd, 0x10ff)]))

/-- Upper case letters that start a sentence. -/
def upper : CharSet :=
  .diff (.union (.table Category.titlecaseLetter) Binary.uppercase)
    (.ofRanges [(0x1c90, 0x1cba), (0x1cbd, 0x1cbf)])

/-- Paragraph separators. -/
def separator : CharSet :=
  .ofRanges [(0x85, 0x85), (0x2028, 0x2029)]

/-- The classes for sentences, under their names. -/
def all : List (List String × CharSet) := [
  (["at", "aterm"], fullStops),
  (["cl", "close"],
    .union
      (Category.join [Category.openPunctuation, Category.closePunctuation,
        Category.initialPunctuation, Category.finalPunctuation])
      (.ofRanges [(0x22, 0x22), (0x27, 0x27), (0x275b, 0x2760), (0x2e00, 0x2e01), (0x2e06, 0x2e08),
        (0x2e0b, 0x2e0b), (0x1f676, 0x1f678)])),
  (["cr"], carriageReturn),
  (["ex", "extend"], extend),
  (["fo", "format"],
    .diff (.table Category.format)
      (.union (.union extend numberMarks) (.ofRanges [(0x200c, 0x200d)]))),
  (["le", "oletter"],
    .diff (.union Binary.alphabetic (.single 0x5f3)) (.union (.union lower upper) extend)),
  (["lf"], lineFeed),
  (["lo", "lower"], lower),
  (["nu", "numeric"],
    .union (.table Category.decimalNumber) (.union numberMarks (.ofRanges [(0x66b, 0x66c)]))),
  (["sc", "scontinue"],
    .ofRanges [(0x2c, 0x2d), (0x3a, 0x3b), (0x37e, 0x37e), (0x55d, 0x55d), (0x60c, 0x60d),
      (0x7f8, 0x7f8), (0x1802, 0x1802), (0x1808, 0x1808), (0x2013, 0x2014), (0x3001, 0x3001),
      (0xfe10, 0xfe11), (0xfe13, 0xfe14), (0xfe31, 0xfe32), (0xfe50, 0xfe51), (0xfe54, 0xfe55),
      (0xfe58, 0xfe58), (0xfe63, 0xfe63), (0xff0c, 0xff0d), (0xff1a, 0xff1b), (0xff64, 0xff64)]),
  (["se", "sep"], separator),
  (["sp"], .diff .blank (.union separator (.ofRanges [(0xa, 0xa), (0xd, 0xd)]))),
  (["st", "sterm"], .diff (.table Binary.sentenceTerminal) fullStops),
  (["up", "upper"], upper)]

end Sentence

end Boundary

end MacroBody
