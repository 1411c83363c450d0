import LineEditor.Unicode.Property

/-! The properties by which text is cut into graphemes, words and sentences.
Each value is a set of code points that the standard derives from other properties.
-/

namespace LineEditor.Unicode

open CharSet (unions)

/-- A value of such a property: the names it goes by and the code points that have it. -/
structure BreakValue where
  names : List String
  members : Unit → CharSet

----------------------------------------------------------------------------------------
-- Sets that several properties share
----------------------------------------------------------------------------------------

/-- A few code points. -/
def codes (points : List Nat) : CharSet := .ofRanges (points.map fun code => (code, code))

/-- The end of a line in two characters. -/
def carriageReturn : CharSet := codes [0x0D]

/-- The end of a line. -/
def lineFeed : CharSet := codes [0x0A]

/-- The zero width joiner. -/
def zeroWidthJoiner : CharSet := codes [0x200D]

/-- Flags are pairs of regional indicators. -/
def regionalIndicators : CharSet := tableSet PropertyRanges.regionalIndicator

/-- Marks put in front of digits and letters that they enclose or number. -/
def prependedMarks : CharSet := tableSet PropertyRanges.prependedConcatenationMark

/-- Prepended marks that stand before digits and count as such. -/
def digitMarks : CharSet := prependedMarks.diff (codes [0x70F])

----------------------------------------------------------------------------------------
-- Graphemes
----------------------------------------------------------------------------------------

/-- Characters that continue a grapheme. -/
def graphemeContinue : CharSet :=
  unions [graphemeExtend, tableSet PropertyRanges.emojiModifier]

/-- Characters that begin a grapheme which takes in the following character. -/
def graphemePrepend : CharSet :=
  unions [prependedMarks, codes [0xD4E, 0x113D1, 0x1193F, 0x11941, 0x11A3A, 0x11D46, 0x11F02],
    ⟨[(0x111C2, 0x111C3), (0x11A84, 0x11A89)]⟩]

/-- Spacing marks that begin a grapheme of their own. -/
def freeSpacingMarks : CharSet :=
  .ofRanges [(0x102B, 0x102C), (0x1038, 0x1038), (0x1062, 0x1064), (0x1067, 0x106D),
    (0x1083, 0x1083), (0x1087, 0x108C), (0x108F, 0x108F), (0x109A, 0x109C), (0x1A61, 0x1A61),
    (0x1A63, 0x1A64), (0xAA7B, 0xAA7B), (0xAA7D, 0xAA7D), (0x11720, 0x11721)]

/-- Composed syllables of two letters: one in every 28. -/
def openSyllables : CharSet := codes ((List.range 399).map fun index => 0xAC00 + 28 * index)

/-- Grapheme_Cluster_Break: how characters join into graphemes. -/
def graphemeBreaks : List BreakValue :=
  [⟨["CR"], fun _ => carriageReturn⟩,
   ⟨["Control", "CN"], fun _ =>
     (unions [categorySet ["Zl", "Zp", "Cc", "Cf"],
       (categorySet ["Cn"]).inter defaultIgnorable]).diff
         (unions [carriageReturn, lineFeed, codes [0x200C], zeroWidthJoiner, prependedMarks,
           graphemeExtend])⟩,
   ⟨["Extend", "EX"], fun _ => graphemeContinue⟩,
   ⟨["L"], fun _ => ⟨[(0x1100, 0x115F), (0xA960, 0xA97C)]⟩⟩,
   ⟨["LF"], fun _ => lineFeed⟩,
   ⟨["LV"], fun _ => openSyllables⟩,
   ⟨["LVT"], fun _ => (⟨[(0xAC00, 0xD7A3)]⟩ : CharSet).diff openSyllables⟩,
   ⟨["Prepend", "PP"], fun _ => graphemePrepend⟩,
   ⟨["Regional_Indicator", "RI"], fun _ => regionalIndicators⟩,
   ⟨["SpacingMark", "SM"], fun _ =>
     (unions [categorySet ["Mc"], codes [0xE33, 0xEB3]]).diff
       (unions [freeSpacingMarks, graphemeContinue, graphemePrepend])⟩,
   ⟨["T"], fun _ => ⟨[(0x11A8, 0x11FF), (0xD7CB, 0xD7FB)]⟩⟩,
   ⟨["V"], fun _ =>
     ⟨[(0x1160, 0x11A7), (0xD7B0, 0xD7C6), (0x16D63, 0x16D63), (0x16D67, 0x16D6A)]⟩⟩,
   ⟨["ZWJ"], fun _ => zeroWidthJoiner⟩]

----------------------------------------------------------------------------------------
-- Words
----------------------------------------------------------------------------------------

/-- Characters that continue the one before them inside a word. -/
def wordExtend : CharSet :=
  (unions [graphemeExtend, categorySet ["Mc"], tableSet PropertyRanges.emojiModifier]).diff
    zeroWidthJoiner

/-- Numeric characters inside words. -/
def wordNumeric : CharSet := unions [categorySet ["Nd"], codes [0x66B], digitMarks]

/-- Katakana and the signs that go with it. -/
def wordKatakana : CharSet :=
  unions [scriptSet "Kana", ⟨[(0x3031, 0x3035)]⟩,
    codes [0x309B, 0x309C, 0x30A0, 0x30FC, 0xFF70]]

/-- Letters of the Hebrew script. -/
def hebrewLetters : CharSet := (scriptSet "Hebr").inter (categorySet ["Lo"])

/-- Signs that are parts of words without being alphabetic. -/
def wordSigns : CharSet :=
  .ofRanges [(0x2C2, 0x2C5), (0x2D2, 0x2D7), (0x2DE, 0x2DF), (0x2E5, 0x2EB), (0x2ED, 0x2ED),
    (0x2EF, 0x2FF), (0x55A, 0x55C), (0x55E, 0x55E), (0x58A, 0x58A), (0x5F3, 0x5F3),
    (0x70F, 0x70F), (0xA708, 0xA716), (0xA720, 0xA721), (0xA789, 0xA78A), (0xAB5B, 0xAB5B)]

/-- Characters of scripts that are written without breaks between words. -/
def complexContext : CharSet :=
  .ofRanges [(0xE01, 0xE3A), (0xE40, 0xE4E), (0xE81, 0xE82), (0xE84, 0xE84), (0xE86, 0xE8A),
    (0xE8C, 0xEA3), (0xEA5, 0xEA5), (0xEA7, 0xEBD), (0xEC0, 0xEC4), (0xEC6, 0xEC6),
    (0xEC8, 0xECE), (0xEDC, 0xEDF), (0x1000, 0x103F), (0x1050, 0x108F), (0x109A, 0x109F),
    (0x1780, 0x17D3), (0x17D7, 0x17D7), (0x17DC, 0x17DD), (0x1950, 0x196D), (0x1970, 0x1974),
    (0x1980, 0x19AB), (0x19B0, 0x19C9), (0x19DA, 0x19DA), (0x19DE, 0x19DF), (0x1A20, 0x1A5E),
    (0x1A60, 0x1A7C), (0x1AA0, 0x1AAD), (0xA9E0, 0xA9EF), (0xA9FA, 0xA9FE), (0xAA60, 0xAAC2),
    (0xAADB, 0xAADF), (0x11700, 0x1171A), (0x1171D, 0x1172B), (0x1173A, 0x1173B),
    (0x1173F, 0x11746)]

/-- Word_Break: how characters join into words. -/
def wordBreaks : List BreakValue :=
  [⟨["ALetter", "LE"], fun _ =>
     (unions [alphabetic, wordSigns]).diff
       (unions [tableSet PropertyRanges.ideographic, wordKatakana, complexContext,
         scriptSet "Hira", wordExtend, hebrewLetters])⟩,
   ⟨["CR"], fun _ => carriageReturn⟩,
   ⟨["Double_Quote", "DQ"], fun _ => codes [0x22]⟩,
   ⟨["Extend"], fun _ => wordExtend⟩,
   ⟨["ExtendNumLet", "EX"], fun _ => unions [categorySet ["Pc"], codes [0x202F]]⟩,
   ⟨["Format", "FO"], fun _ =>
     (categorySet ["Cf"]).diff
       (unions [⟨[(0x200B, 0x200D)]⟩, wordExtend, wordNumeric, prependedMarks])⟩,
   ⟨["Hebrew_Letter", "HL"], fun _ => hebrewLetters⟩,
   ⟨["Katakana", "KA"], fun _ => wordKatakana⟩,
   ⟨["LF"], fun _ => lineFeed⟩,
   ⟨["MidLetter", "ML"], fun _ =>
     codes [0x3A, 0xB7, 0x387, 0x55F, 0x5F4, 0x2027, 0xFE13, 0xFE55, 0xFF1A]⟩,
   ⟨["MidNum", "MN"], fun _ =>
     codes [0x2C, 0x3B, 0x37E, 0x589, 0x60C, 0x60D, 0x66C, 0x7F8, 0x2044, 0xFE10, 0xFE14,
       0xFE50, 0xFE54, 0xFF0C, 0xFF1B]⟩,
   ⟨["MidNumLet", "MB"], fun _ =>
     codes [0x2E, 0x2018, 0x2019, 0x2024, 0xFE52, 0xFF07, 0xFF0E]⟩,
   ⟨["Newline", "NL"], fun _ => codes [0x0B, 0x0C, 0x85, 0x2028, 0x2029]⟩,
   ⟨["Numeric", "NU"], fun _ => wordNumeric⟩,
   ⟨["Regional_Indicator", "RI"], fun _ => regionalIndicators⟩,
   ⟨["Single_Quote", "SQ"], fun _ => codes [0x27]⟩,
   ⟨["WSegSpace"], fun _ => (categorySet ["Zs"]).diff (codes [0xA0, 0x2007, 0x202F])⟩,
   ⟨["ZWJ"], fun _ => zeroWidthJoiner⟩]

----------------------------------------------------------------------------------------
-- Sentences
----------------------------------------------------------------------------------------

/-- Characters that continue the one before them inside a sentence. -/
def sentenceExtend : CharSet := unions [graphemeExtend, categorySet ["Mc"], zeroWidthJoiner]

/-- Numeric characters inside sentences. -/
def sentenceNumeric : CharSet := unions [categorySet ["Nd"], codes [0x66B, 0x66C], digitMarks]

/-- Separators of paragraphs beside the ends of lines. -/
def sentenceSeparators : CharSet := codes [0x85, 0x2028, 0x2029]

/-- Lowercase letters; those of the Georgian script begin sentences and do not count. -/
def sentenceLower : CharSet :=
  lowercase.diff (unions [sentenceExtend, ⟨[(0x10D0, 0x10FA), (0x10FD, 0x10FF)]⟩])

/-- Uppercase and titlecase letters except those of the Georgian script. -/
def sentenceUpper : CharSet :=
  (unions [uppercase, categorySet ["Lt"]]).diff ⟨[(0x1C90, 0x1CBA), (0x1CBD, 0x1CBF)]⟩

/-- Full stops, which end a sentence or an abbreviation. -/
def sentenceStops : CharSet := codes [0x2E, 0x2024, 0xFE52, 0xFF0E]

/-- Other marks that end a sentence. -/
def sentenceEnds : CharSet :=
  (tableSet PropertyRanges.sentenceTerminal).diff sentenceStops

/-- Brackets and quotation marks, which may follow the end of a sentence. -/
def sentenceClosing : CharSet :=
  (unions [categorySet ["Ps", "Pe", "Pi", "Pf"], tableSet PropertyRanges.quotationMark,
      ⟨[(0x275B, 0x2760), (0x2E00, 0x2E0D), (0x1F676, 0x1F678)]⟩]).diff
    (unions [codes [0xFF02, 0xFF07], sentenceStops, sentenceEnds])

/-- Sentence_Break: how characters join into sentences. -/
def sentenceBreaks : List BreakValue :=
  [⟨["ATerm", "AT"], fun _ => sentenceStops⟩,
   ⟨["CR"], fun _ => carriageReturn⟩,
   ⟨["Close", "CL"], fun _ => sentenceClosing⟩,
   ⟨["Extend", "EX"], fun _ => sentenceExtend⟩,
   ⟨["Format", "FO"], fun _ =>
     (categorySet ["Cf"]).diff
       (unions [⟨[(0x200C, 0x200D)]⟩, sentenceExtend, sentenceNumeric])⟩,
   ⟨["LF"], fun _ => lineFeed⟩,
   ⟨["Lower", "LO"], fun _ => sentenceLower⟩,
   ⟨["Numeric", "NU"], fun _ => sentenceNumeric⟩,
   ⟨["OLetter", "LE"], fun _ =>
     (unions [alphabetic, codes [0x5F3]]).diff
       (unions [sentenceLower, sentenceUpper, sentenceExtend])⟩,
   ⟨["SContinue", "SC"], fun _ =>
     .ofRanges [(0x2C, 0x2D), (0x3A, 0x3B), (0x37E, 0x37E), (0x55D, 0x55D), (0x60C, 0x60D),
       (0x7F8, 0x7F8), (0x1802, 0x1802), (0x1808, 0x1808), (0x2013, 0x2014), (0x3001, 0x3001),
       (0xFE10, 0xFE11), (0xFE13, 0xFE14), (0xFE31, 0xFE32), (0xFE50, 0xFE51), (0xFE54, 0xFE55),
       (0xFE58, 0xFE58), (0xFE63, 0xFE63), (0xFF0C, 0xFF0D), (0xFF1A, 0xFF1B),
       (0xFF64, 0xFF64)]⟩,
   ⟨["STerm", "ST"], fun _ => sentenceEnds⟩,
   ⟨["Sep", "SE"], fun _ => sentenceSeparators⟩,
   ⟨["Sp", "SP"], fun _ =>
     (tableSet PropertyRanges.whiteSpace).diff
       (unions [sentenceSeparators, carriageReturn, lineFeed])⟩,
   ⟨["Upper", "UP"], fun _ => sentenceUpper⟩]

end LineEditor.Unicode
