import LineEditor.Unicode.GeneralCategory
import LineEditor.Unicode.PropertyRanges
import LineEditor.Unicode.ScriptRuns

/-! Binary properties and scripts as sets of code points.
Derived properties follow the formulas of the standard.
-/

namespace LineEditor.Unicode

open CharSet (unions)

/-- The set that a table of gaps and lengths spells. -/
def tableSet (lines : List String) : CharSet := ⟨gapRanges lines⟩

/-- Lowercase: small letters and the other characters that look and act like them. -/
def lowercase : CharSet :=
  unions [categorySet ["Ll"], tableSet PropertyRanges.otherLowercase]

/-- Uppercase: capital letters and the other characters that look and act like them. -/
def uppercase : CharSet :=
  unions [categorySet ["Lu"], tableSet PropertyRanges.otherUppercase]

/-- Alphabetic: letters, letter numbers and the marks that belong to letters. -/
def alphabetic : CharSet :=
  unions [lowercase, uppercase, categorySet ["Lt", "Lm", "Lo", "Nl"],
    tableSet PropertyRanges.otherAlphabetic]

/-- Cased: characters in lower, upper or title case. -/
def cased : CharSet := unions [lowercase, uppercase, categorySet ["Lt"]]

/-- Case_Ignorable: characters that case mapping looks through. -/
def caseIgnorable : CharSet :=
  unions [categorySet ["Mn", "Me", "Cf", "Lm", "Sk"],
    tableSet PropertyRanges.midWordPunctuation]

/-- Characters that syntax reserves, which no identifier holds. -/
def patternReserved : CharSet :=
  unions [tableSet PropertyRanges.patternSyntax, tableSet PropertyRanges.patternWhiteSpace]

/-- ID_Start: characters that may begin an identifier. -/
def idStart : CharSet :=
  ((categorySet ["Lu", "Ll", "Lt", "Lm", "Lo", "Nl"]).diff patternReserved).union
    (tableSet PropertyRanges.otherIdStart)

/-- ID_Continue: characters that may follow in an identifier. -/
def idContinue : CharSet :=
  unions [idStart, categorySet ["Mn", "Mc", "Nd", "Pc"],
    tableSet PropertyRanges.otherIdContinue]

/-- Grapheme_Extend: marks that never stand alone. -/
def graphemeExtend : CharSet :=
  unions [categorySet ["Me", "Mn"], tableSet PropertyRanges.otherGraphemeExtend]

/-- Default_Ignorable_Code_Point: characters that show nothing where they are not supported. -/
def defaultIgnorable : CharSet :=
  (unions [tableSet PropertyRanges.otherDefaultIgnorable, categorySet ["Cf"],
      tableSet PropertyRanges.variationSelector]).diff
    (unions [tableSet PropertyRanges.whiteSpace, ⟨[(0xFFF9, 0xFFFB)]⟩,
      tableSet PropertyRanges.prependedConcatenationMark, ⟨[(0x13430, 0x1343F)]⟩])

/-- Grapheme_Base: visible characters that marks attach to. -/
def graphemeBase : CharSet :=
  (unions [categorySet ["Cc", "Cf", "Cs", "Co", "Cn", "Zl", "Zp"], graphemeExtend]).complement

/-- Characters with a numeric category. -/
def numeric : CharSet := categorySet ["Nd", "Nl", "No"]

/-- Alphabetic characters by the edition of the standard that follows the tables. -/
def latestAlphabetic : CharSet := alphabetic.union (tableSet PropertyRanges.laterAlphabetic)

/-- Characters with a numeric category by the edition that follows the tables. -/
def latestNumeric : CharSet := numeric.union (tableSet PropertyRanges.laterNumeric)

/-- Word characters: alphabetic characters, marks, decimal digits, connectors and joiners. -/
def wordCharacters : CharSet :=
  unions [alphabetic, categorySet ["Mn", "Mc", "Me", "Nd", "Pc"],
    tableSet PropertyRanges.joinControl]

/-- Decimal digits of every script. -/
def decimalDigits : CharSet := categorySet ["Nd"]

/-- White_Space. -/
def whiteSpace : CharSet := tableSet PropertyRanges.whiteSpace

/-- A binary property: the names it goes by and the code points that have it. -/
structure BinaryProperty where
  names : List String
  members : Unit → CharSet

open PropertyRanges in
/-- The binary properties under their long and short names. -/
def binaryProperties : List BinaryProperty :=
  [⟨["ASCII_Hex_Digit", "AHex"], fun _ => tableSet asciiHexDigit⟩,
   ⟨["Alphabetic", "Alpha"], fun _ => alphabetic⟩,
   ⟨["Bidi_Control", "Bidi_C"], fun _ => tableSet bidiControl⟩,
   ⟨["Case_Ignorable", "CI"], fun _ => caseIgnorable⟩,
   ⟨["Cased"], fun _ => cased⟩,
   ⟨["Changes_When_Casefolded", "CWCF"], fun _ =>
     (tableSet changesWhenLowercased).symmDiff (tableSet casefoldDifference)⟩,
   ⟨["Changes_When_Casemapped", "CWCM"], fun _ =>
     unions [tableSet changesWhenLowercased, tableSet changesWhenUppercased,
       (tableSet changesWhenUppercased).symmDiff (tableSet titlecaseDifference)]⟩,
   ⟨["Changes_When_Lowercased", "CWL"], fun _ => tableSet changesWhenLowercased⟩,
   ⟨["Changes_When_Titlecased", "CWT"], fun _ =>
     (tableSet changesWhenUppercased).symmDiff (tableSet titlecaseDifference)⟩,
   ⟨["Changes_When_Uppercased", "CWU"], fun _ => tableSet changesWhenUppercased⟩,
   ⟨["Dash"], fun _ => tableSet dash⟩,
   ⟨["Default_Ignorable_Code_Point", "DI"], fun _ => defaultIgnorable⟩,
   ⟨["Deprecated", "Dep"], fun _ => tableSet deprecated⟩,
   ⟨["Diacritic", "Dia"], fun _ => tableSet diacritic⟩,
   ⟨["Emoji"], fun _ => tableSet emoji⟩,
   ⟨["Emoji_Component", "EComp"], fun _ => tableSet emojiComponent⟩,
   ⟨["Emoji_Modifier", "EMod"], fun _ => tableSet emojiModifier⟩,
   ⟨["Emoji_Modifier_Base", "EBase"], fun _ => tableSet emojiModifierBase⟩,
   ⟨["Emoji_Presentation", "EPres"], fun _ => tableSet emojiPresentation⟩,
   ⟨["Extended_Pictographic", "ExtPict"], fun _ => tableSet extendedPictographic⟩,
   ⟨["Extender", "Ext"], fun _ => tableSet extender⟩,
   ⟨["Grapheme_Base", "Gr_Base"], fun _ => graphemeBase⟩,
   ⟨["Grapheme_Extend", "Gr_Ext"], fun _ => graphemeExtend⟩,
   ⟨["Grapheme_Link", "Gr_Link"], fun _ => tableSet graphemeLink⟩,
   ⟨["Hex_Digit", "Hex"], fun _ => tableSet hexDigit⟩,
   ⟨["Hyphen"], fun _ => tableSet hyphen⟩,
   ⟨["IDS_Binary_Operator", "IDSB"], fun _ => tableSet idsBinaryOperator⟩,
   ⟨["IDS_Trinary_Operator", "IDST"], fun _ => tableSet idsTrinaryOperator⟩,
   ⟨["IDS_Unary_Operator", "IDSU"], fun _ => tableSet idsUnaryOperator⟩,
   ⟨["ID_Compat_Math_Continue"], fun _ =>
     unions [tableSet idCompatMathStart, tableSet idCompatMathDigits]⟩,
   ⟨["ID_Compat_Math_Start"], fun _ => tableSet idCompatMathStart⟩,
   ⟨["ID_Continue", "IDC"], fun _ => idContinue⟩,
   ⟨["ID_Start", "IDS"], fun _ => idStart⟩,
   ⟨["Ideographic", "Ideo"], fun _ => tableSet ideographic⟩,
   ⟨["Join_Control", "Join_C"], fun _ => tableSet joinControl⟩,
   ⟨["Logical_Order_Exception", "LOE"], fun _ => tableSet logicalOrderException⟩,
   ⟨["Lowercase", "Lower"], fun _ => lowercase⟩,
   ⟨["Math"], fun _ => unions [categorySet ["Sm"], tableSet otherMath]⟩,
   ⟨["Modifier_Combining_Mark", "MCM"], fun _ => tableSet modifierCombiningMark⟩,
   ⟨["Noncharacter_Code_Point", "NChar"], fun _ => tableSet noncharacterCodePoint⟩,
   ⟨["Other_Alphabetic", "OAlpha"], fun _ => tableSet otherAlphabetic⟩,
   ⟨["Other_Default_Ignorable_Code_Point", "ODI"], fun _ => tableSet otherDefaultIgnorable⟩,
   ⟨["Other_Grapheme_Extend", "OGr_Ext"], fun _ => tableSet otherGraphemeExtend⟩,
   ⟨["Other_ID_Continue", "OIDC"], fun _ => tableSet otherIdContinue⟩,
   ⟨["Other_ID_Start", "OIDS"], fun _ => tableSet otherIdStart⟩,
   ⟨["Other_Lowercase", "OLower"], fun _ => tableSet otherLowercase⟩,
   ⟨["Other_Math", "OMath"], fun _ => tableSet otherMath⟩,
   ⟨["Other_Uppercase", "OUpper"], fun _ => tableSet otherUppercase⟩,
   ⟨["Pattern_Syntax", "Pat_Syn"], fun _ => tableSet patternSyntax⟩,
   ⟨["Pattern_White_Space", "Pat_WS"], fun _ => tableSet patternWhiteSpace⟩,
   ⟨["Prepended_Concatenation_Mark", "PCM"], fun _ => tableSet prependedConcatenationMark⟩,
   ⟨["Quotation_Mark", "QMark"], fun _ => tableSet quotationMark⟩,
   ⟨["Radical"], fun _ => tableSet radical⟩,
   ⟨["Regional_Indicator", "RI"], fun _ => tableSet regionalIndicator⟩,
   ⟨["Sentence_Terminal", "STerm"], fun _ => tableSet sentenceTerminal⟩,
   ⟨["Soft_Dotted", "SD"], fun _ => tableSet softDotted⟩,
   ⟨["Terminal_Punctuation", "Term"], fun _ => tableSet terminalPunctuation⟩,
   ⟨["Unified_Ideograph", "UIdeo"], fun _ => tableSet unifiedIdeograph⟩,
   ⟨["Uppercase", "Upper"], fun _ => uppercase⟩,
   ⟨["Variation_Selector", "VS"], fun _ => tableSet variationSelector⟩,
   ⟨["White_Space", "WSpace", "space"], fun _ => whiteSpace⟩,
   ⟨["XID_Continue", "XIDC"], fun _ =>
     idContinue.diff (tableSet compatibilityIdContinue)⟩,
   ⟨["XID_Start", "XIDS"], fun _ => idStart.diff (tableSet compatibilityIdStart)⟩]

/-- The code points whose script has the four-letter code. -/
def scriptSet (code : String) : CharSet :=
  runSet (labelledRuns scriptRuns) fun label => label == code

/-- The code points that the script with the four-letter code uses, shared ones included. -/
def scriptExtensionSet (code : String) : CharSet :=
  let extensions := labelledRuns scriptExtensionRuns
  ((scriptSet code).inter (runSet extensions fun label => label == "-")).union
    (runSet extensions fun label => (label.splitOn "+").contains code)

end LineEditor.Unicode
