import LineEditor.Unicode.Age
import LineEditor.Unicode.Segmentation

/-! Loose matching of property names, and the set of code points that a property query asks for. -/

namespace LineEditor.Unicode

/-- The characters of a name that matter: ASCII without blanks, hyphens and underscores, in
lower case.
-/
def looseCharacters (name : List Char) : List Char :=
  (name.filter fun c => c.toNat < 0x80 && c != ' ' && c != '-' && c != '_').map Char.toLower

/-- The loose form of a name, without a leading "is"; the one name that the rule would
confuse with a category keeps its prefix.
-/
def looseName (name : String) : List Char :=
  match name.toList with
  | first :: second :: rest =>
      if first.toLower = 'i' && second.toLower = 's' then
        match looseCharacters rest with
        | ['c'] => ['i', 's', 'c']
        | loose => loose
      else looseCharacters name.toList
  | short => looseCharacters short

/-- One of the names agrees loosely with the wanted one. -/
def namesMatch (names : List String) (wanted : List Char) : Bool :=
  names.any fun name => looseCharacters name.toList == wanted

/-- A property as a pattern names it. -/
inductive PropertyQuery where
  | named (name : String)
  | valued (name value : String)
  deriving DecidableEq, Repr

/-- Why a property query has no answer. -/
inductive PropertyFault where
  | unknownProperty
  | unknownValue
  deriving DecidableEq, Repr

/-- Names of values that no character has, so that no set stands behind them. -/
def vacantNames : List String :=
  ["Cs", "Surrogate", "Hrkt", "Katakana_Or_Hiragana", "Zzzz", "Unknown"]

/-- Keeps a set unless the name means a value that no character has. -/
def unlessVacant (wanted : List Char) (set : Option CharSet) : Except PropertyFault CharSet :=
  if namesMatch vacantNames wanted then .error .unknownValue
  else
    match set with
    | some set => .ok set
    | none => .error .unknownProperty

/-- The general category set under a loose name. -/
def categoryNamed (wanted : List Char) : Option CharSet :=
  if wanted = "any".toList then some .full
  else if wanted = "assigned".toList then some (categorySet ["Cn"]).negation
  else if wanted = "ascii".toList then some ⟨[(0, 0x7F)]⟩
  else
    (categoryNames.find? fun category => namesMatch category.names wanted).map
      fun category => categorySet category.codes

/-- The code of the script under a loose name. -/
def scriptCodeNamed (wanted : List Char) : Option String :=
  (scriptNames.flatMap (·.splitOn " ")).findSome? fun entry =>
    let names := entry.splitOn "|"
    if namesMatch names wanted then names.head? else none

/-- The value of a segmentation property under a loose name. -/
def breakNamed (values : List BreakValue) (wanted : List Char) : Option CharSet :=
  (values.find? fun value => namesMatch value.names wanted).map fun value => value.members ()

/-- A property with values: its names, and the set under the loose name of a value. -/
structure ValuedProperty where
  names : List String
  set : List Char → Option CharSet

/-- The properties that a pattern may ask for by value. -/
def valuedProperties : List ValuedProperty :=
  [⟨["General_Category", "gc"], categoryNamed⟩,
   ⟨["Script", "sc"], fun wanted => (scriptCodeNamed wanted).map scriptSet⟩,
   ⟨["Script_Extensions", "scx"], fun wanted =>
     (scriptCodeNamed wanted).map scriptExtensionSet⟩,
   ⟨["Age"], ageNamed⟩,
   ⟨["Grapheme_Cluster_Break", "GCB"], breakNamed graphemeBreaks⟩,
   ⟨["Word_Break", "WB"], breakNamed wordBreaks⟩,
   ⟨["Sentence_Break", "SB"], breakNamed sentenceBreaks⟩]

/-- The names of the standard's other properties that have no set here: their values are unknown,
but the properties are not.
-/
def otherProperties : List String :=
  ["Bidi_Class", "bc", "Bidi_Mirrored", "Bidi_M", "Bidi_Mirroring_Glyph", "bmg",
   "Bidi_Paired_Bracket", "bpb", "Bidi_Paired_Bracket_Type", "bpt", "Block", "blk",
   "Canonical_Combining_Class", "ccc", "Case_Folding", "cf", "Changes_When_NFKC_Casefolded",
   "CWKCF", "Composition_Exclusion", "CE", "Decomposition_Mapping", "dm",
   "Decomposition_Type", "dt", "East_Asian_Width", "ea", "Equivalent_Unified_Ideograph",
   "EqUIdeo", "Expands_On_NFC", "XO_NFC", "Expands_On_NFD", "XO_NFD", "Expands_On_NFKC",
   "XO_NFKC", "Expands_On_NFKD", "XO_NFKD", "FC_NFKC_Closure", "FC_NFKC",
   "Full_Composition_Exclusion", "Comp_Ex", "Hangul_Syllable_Type", "hst",
   "Indic_Conjunct_Break", "InCB", "Indic_Positional_Category", "InPC",
   "Indic_Syllabic_Category", "InSC", "ISO_Comment", "isc", "Jamo_Short_Name", "JSN",
   "Joining_Group", "jg", "Joining_Type", "jt", "Line_Break", "lb", "Lowercase_Mapping", "lc",
   "Name", "na", "Name_Alias", "NFC_Quick_Check", "NFC_QC", "NFD_Quick_Check", "NFD_QC",
   "NFKC_Casefold", "NFKC_CF", "NFKC_Quick_Check", "NFKC_QC", "NFKC_Simple_Casefold",
   "NFKC_SCF", "NFKD_Quick_Check", "NFKD_QC", "Numeric_Type", "nt", "Numeric_Value", "nv",
   "Simple_Case_Folding", "scf", "sfc", "Simple_Lowercase_Mapping", "slc",
   "Simple_Titlecase_Mapping", "stc", "Simple_Uppercase_Mapping", "suc", "Titlecase_Mapping",
   "tc", "Unicode_1_Name", "na1", "Unicode_Radical_Stroke", "URS", "Uppercase_Mapping", "uc",
   "Vertical_Orientation", "vo", "cjkAccountingNumeric", "kAccountingNumeric",
   "cjkCompatibilityVariant", "kCompatibilityVariant", "cjkIICore", "kIICore",
   "cjkIRG_GSource", "kIRG_GSource", "cjkIRG_HSource", "kIRG_HSource", "cjkIRG_JSource",
   "kIRG_JSource", "cjkIRG_KPSource", "kIRG_KPSource", "cjkIRG_KSource", "kIRG_KSource",
   "cjkIRG_MSource", "kIRG_MSource", "cjkIRG_SSource", "kIRG_SSource", "cjkIRG_TSource",
   "kIRG_TSource", "cjkIRG_UKSource", "kIRG_UKSource", "cjkIRG_USource", "kIRG_USource",
   "cjkIRG_VSource", "kIRG_VSource", "cjkMandarin", "kMandarin", "cjkOtherNumeric",
   "kOtherNumeric", "cjkPrimaryNumeric", "kPrimaryNumeric", "cjkRSUnicode", "kRSUnicode",
   "cjkTotalStrokes", "kTotalStrokes", "cjkUnihanCore2020", "kUnihanCore2020", "kEH_Cat",
   "kEH_Desc", "kEH_HG", "kEH_IFAO", "kEH_JSesh", "kEH_NoMirror", "kEH_NoRotate"]

/-- The binary property set under a loose name. -/
def binaryNamed (wanted : List Char) : Option CharSet :=
  (binaryProperties.find? fun property => namesMatch property.names wanted).map
    fun property => property.members ()

/-- The standard has a property with the loose name that takes no values here. -/
def isValueless (wanted : List Char) : Bool :=
  namesMatch otherProperties wanted
    || binaryProperties.any fun property => namesMatch property.names wanted

/-- Answers a query by a single name: binary properties first, then categories, then scripts.
The abbreviations that categories share with valued properties mean the categories.
-/
def namedSet (wanted : List Char) : Except PropertyFault CharSet :=
  unlessVacant wanted
    ((binaryNamed wanted).or ((categoryNamed wanted).or
      ((scriptCodeNamed wanted).map scriptSet)))

/-- Answers a query by a property and a value. -/
def valuedSet (property wanted : List Char) : Except PropertyFault CharSet :=
  match valuedProperties.find? fun valued => namesMatch valued.names property with
  | some valued =>
      match valued.set wanted with
      | some set => if namesMatch vacantNames wanted then .error .unknownValue else .ok set
      | none => .error .unknownValue
  | none => .error (if isValueless property then .unknownValue else .unknownProperty)

/-- The set of code points that a query asks for. -/
def PropertyQuery.set (query : PropertyQuery) : Except PropertyFault CharSet :=
  match query with
  | .named name => namedSet (looseName name)
  | .valued name value => valuedSet (looseName name) (looseName value)

end LineEditor.Unicode
