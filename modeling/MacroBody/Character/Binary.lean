import MacroBody.Character.BinaryTables
import MacroBody.Character.Category

/-!
# Binary properties of characters

Properties that a code point has or lacks. Many follow from the general category and a table of
additions and are built here; the others are tables.
-/

namespace MacroBody

namespace Binary

/-- Lower case characters. -/
def lowercase : CharSet :=
  Category.join [Category.lowercaseLetter, otherLowercase]

/-- Upper case characters. -/
def uppercase : CharSet :=
  Category.join [Category.uppercaseLetter, otherUppercase]

/-- Characters with case. -/
def cased : CharSet :=
  .union (.table Category.titlecaseLetter) (.union lowercase uppercase)

/-- Characters that words are written with. -/
def alphabetic : CharSet :=
  .union (.union lowercase uppercase)
    (Category.join [Category.titlecaseLetter, Category.modifierLetter, Category.otherLetter,
      Category.letterNumber, otherAlphabetic])

/-- Characters that do not count when the case of their neighbours is looked at. -/
def caseIgnorable : CharSet :=
  Category.join [Category.nonspacingMark, Category.enclosingMark, Category.format,
    Category.modifierLetter, Category.modifierSymbol, otherCaseIgnorable]

/-- Characters that some change of case changes. -/
def changesWhenCasemapped : CharSet :=
  Category.join [changesWhenLowercased, changesWhenTitlecased, changesWhenUppercased]

/-- Mathematical characters. -/
def math : CharSet :=
  Category.join [Category.mathSymbol, otherMath]

/-- Characters that extend the one before them. -/
def graphemeExtend : CharSet :=
  Category.join [Category.nonspacingMark, Category.enclosingMark, otherGraphemeExtend]

/-- Characters that others can extend. -/
def graphemeBase : CharSet :=
  .diff Category.assigned
    (.union graphemeExtend
      (Category.join [Category.control, Category.format, Category.surrogate, Category.privateUse,
        Category.lineSeparator, Category.paragraphSeparator]))

/-- Characters that start identifiers. -/
def idStart : CharSet :=
  .union (.table otherIdStart)
    (.diff (.union Category.letter (.table Category.letterNumber))
      (Category.join [patternSyntax, patternWhiteSpace]))

/-- Characters that continue identifiers. -/
def idContinue : CharSet :=
  .union idStart
    (.diff
      (Category.join [Category.nonspacingMark, Category.spacingMark, Category.decimalNumber,
        Category.connectorPunctuation, otherIdContinue])
      (Category.join [patternSyntax, patternWhiteSpace]))

/-- Every binary property under its names. -/
def all : List (List String × CharSet) := [
  (["ahex", "asciihexdigit"], .table asciiHexDigit),
  (["alpha", "alphabetic"], alphabetic),
  (["bidic", "bidicontrol"], .table bidiControl),
  (["bidim", "bidimirrored"], .table bidiMirrored),
  (["ci", "caseignorable"], caseIgnorable),
  (["cased"], cased),
  (["cwcf", "changeswhencasefolded"], .table changesWhenCasefolded),
  (["cwcm", "changeswhencasemapped"], changesWhenCasemapped),
  (["cwl", "changeswhenlowercased"], .table changesWhenLowercased),
  (["cwt", "changeswhentitlecased"], .table changesWhenTitlecased),
  (["cwu", "changeswhenuppercased"], .table changesWhenUppercased),
  (["dash"], .table dash),
  (["di", "defaultignorablecodepoint"], .table defaultIgnorableCodePoint),
  (["dep", "deprecated"], .table deprecated),
  (["dia", "diacritic"], .table diacritic),
  (["emoji"], .table emoji),
  (["ecomp", "emojicomponent"], .table emojiComponent),
  (["emod", "emojimodifier"], .table emojiModifier),
  (["ebase", "emojimodifierbase"], .table emojiModifierBase),
  (["epres", "emojipresentation"], .table emojiPresentation),
  (["extpict", "extendedpictographic"], .table extendedPictographic),
  (["ext", "extender"], .table extender),
  (["grbase", "graphemebase"], graphemeBase),
  (["grext", "graphemeextend"], graphemeExtend),
  (["grlink", "graphemelink"], .table graphemeLink),
  (["hex", "hexdigit"], .table hexDigit),
  (["hyphen"], .table hyphen),
  (["idsb", "idsbinaryoperator"], .table idsBinaryOperator),
  (["idst", "idstrinaryoperator"], .table idsTrinaryOperator),
  (["idsu", "idsunaryoperator"], .table idsUnaryOperator),
  (["idcompatmathcontinue"], .table idCompatMathContinue),
  (["idcompatmathstart"], .table idCompatMathStart),
  (["idc", "idcontinue"], idContinue),
  (["ids", "idstart"], idStart),
  (["ideo", "ideographic"], .table ideographic),
  (["joinc", "joincontrol"], .table joinControl),
  (["loe", "logicalorderexception"], .table logicalOrderException),
  (["lower", "lowercase"], lowercase),
  (["math"], math),
  (["mcm", "modifiercombiningmark"], .table modifierCombiningMark),
  (["nchar", "noncharactercodepoint"], .table noncharacterCodePoint),
  (["oalpha", "otheralphabetic"], .table otherAlphabetic),
  (["odi", "otherdefaultignorablecodepoint"], .table otherDefaultIgnorableCodePoint),
  (["ogrext", "othergraphemeextend"], .table otherGraphemeExtend),
  (["oidc", "otheridcontinue"], .table otherIdContinue),
  (["oids", "otheridstart"], .table otherIdStart),
  (["olower", "otherlowercase"], .table otherLowercase),
  (["omath", "othermath"], .table otherMath),
  (["oupper", "otheruppercase"], .table otherUppercase),
  (["patsyn", "patternsyntax"], .table patternSyntax),
  (["patws", "patternwhitespace"], .table patternWhiteSpace),
  (["pcm", "prependedconcatenationmark"], .table prependedConcatenationMark),
  (["qmark", "quotationmark"], .table quotationMark),
  (["radical"], .table radical),
  (["ri", "regionalindicator"], .table regionalIndicator),
  (["sterm", "sentenceterminal"], .table sentenceTerminal),
  (["sd", "softdotted"], .table softDotted),
  (["term", "terminalpunctuation"], .table terminalPunctuation),
  (["uideo", "unifiedideograph"], .table unifiedIdeograph),
  (["upper", "uppercase"], uppercase),
  (["vs", "variationselector"], .table variationSelector),
  (["wspace", "whitespace", "space"], .blank),
  (["xidc", "xidcontinue"], .diff idContinue (.table notXidContinue)),
  (["xids", "xidstart"], .diff idStart (.table notXidStart))]

end Binary

end MacroBody
