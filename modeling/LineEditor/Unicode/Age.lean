import LineEditor.Unicode.AgeRuns

/-! Age: the editions of the standard, and the code points that each of them knows. -/

namespace LineEditor.Unicode

/-- The editions that assigned characters, in order. -/
def editions : List String :=
  ["1.1", "2.0", "2.1", "3.0", "3.1", "3.2", "4.0", "4.1", "5.0", "5.1", "5.2", "6.0", "6.1",
   "6.2", "6.3", "7.0", "8.0", "9.0", "10.0", "11.0", "12.0", "12.1", "13.0", "14.0", "15.0",
   "15.1", "16.0"]

/-- A loose name means the edition: its number, or the letter V before the number's digits. -/
def isEditionName (edition : String) (wanted : List Char) : Bool :=
  wanted == edition.toList || wanted == 'v' :: edition.toList.filter (· != '.')

/-- The code points that an edition knows: those that it or an earlier one assigned. -/
def ageSet (edition : String) : CharSet :=
  let known := edition :: editions.takeWhile (· != edition)
  runSet (labelledRuns ageRuns) fun label => known.contains label

/-- The code points that the edition with a loose name knows. -/
def ageNamed (wanted : List Char) : Option CharSet :=
  (editions.find? fun edition => isEditionName edition wanted).map ageSet

end LineEditor.Unicode
