import LineEditor.Unicode.CategoryRuns

/-! General categories: their names, the groups they form and the code points they hold. -/

namespace LineEditor.Unicode

/-- The labelled ranges of the category table. -/
def categoryRanges : List (String × Nat × Nat) := labelledRuns categoryRuns

/-- The code points whose category is among the given two-letter codes. -/
def categorySet (codes : List String) : CharSet :=
  runSet categoryRanges fun code => codes.contains code

/-- A category or a group of categories: the names it goes by and the codes it stands for. -/
structure CategoryName where
  names : List String
  codes : List String

/-- Categories and groups under their short and long names. -/
def categoryNames : List CategoryName :=
  [⟨["C", "Other"], ["Cc", "Cf", "Cs", "Co", "Cn"]⟩,
   ⟨["Cc", "Control", "Cntrl"], ["Cc"]⟩,
   ⟨["Cf", "Format"], ["Cf"]⟩,
   ⟨["Cn", "Unassigned"], ["Cn"]⟩,
   ⟨["Co", "Private_Use"], ["Co"]⟩,
   ⟨["Cs", "Surrogate"], ["Cs"]⟩,
   ⟨["L", "Letter"], ["Lu", "Ll", "Lt", "Lm", "Lo"]⟩,
   ⟨["LC", "Cased_Letter"], ["Lu", "Ll", "Lt"]⟩,
   ⟨["Ll", "Lowercase_Letter"], ["Ll"]⟩,
   ⟨["Lm", "Modifier_Letter"], ["Lm"]⟩,
   ⟨["Lo", "Other_Letter"], ["Lo"]⟩,
   ⟨["Lt", "Titlecase_Letter"], ["Lt"]⟩,
   ⟨["Lu", "Uppercase_Letter"], ["Lu"]⟩,
   ⟨["M", "Mark", "Combining_Mark"], ["Mn", "Mc", "Me"]⟩,
   ⟨["Mc", "Spacing_Mark"], ["Mc"]⟩,
   ⟨["Me", "Enclosing_Mark"], ["Me"]⟩,
   ⟨["Mn", "Nonspacing_Mark"], ["Mn"]⟩,
   ⟨["N", "Number"], ["Nd", "Nl", "No"]⟩,
   ⟨["Nd", "Decimal_Number", "Digit"], ["Nd"]⟩,
   ⟨["Nl", "Letter_Number"], ["Nl"]⟩,
   ⟨["No", "Other_Number"], ["No"]⟩,
   ⟨["P", "Punctuation", "Punct"], ["Pc", "Pd", "Ps", "Pe", "Pi", "Pf", "Po"]⟩,
   ⟨["Pc", "Connector_Punctuation"], ["Pc"]⟩,
   ⟨["Pd", "Dash_Punctuation"], ["Pd"]⟩,
   ⟨["Pe", "Close_Punctuation"], ["Pe"]⟩,
   ⟨["Pf", "Final_Punctuation"], ["Pf"]⟩,
   ⟨["Pi", "Initial_Punctuation"], ["Pi"]⟩,
   ⟨["Po", "Other_Punctuation"], ["Po"]⟩,
   ⟨["Ps", "Open_Punctuation"], ["Ps"]⟩,
   ⟨["S", "Symbol"], ["Sm", "Sc", "Sk", "So"]⟩,
   ⟨["Sc", "Currency_Symbol"], ["Sc"]⟩,
   ⟨["Sk", "Modifier_Symbol"], ["Sk"]⟩,
   ⟨["Sm", "Math_Symbol"], ["Sm"]⟩,
   ⟨["So", "Other_Symbol"], ["So"]⟩,
   ⟨["Z", "Separator"], ["Zs", "Zl", "Zp"]⟩,
   ⟨["Zl", "Line_Separator"], ["Zl"]⟩,
   ⟨["Zp", "Paragraph_Separator"], ["Zp"]⟩,
   ⟨["Zs", "Space_Separator"], ["Zs"]⟩]

end LineEditor.Unicode
