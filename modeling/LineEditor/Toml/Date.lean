/-! Dates and times of configuration documents: which texts are such, by the calendar. -/

namespace LineEditor.Toml

/-- Reads a number of exactly so many digits. -/
def readFixed (count : Nat) (text : List Char) : Option (Nat × List Char) :=
  let digits := text.take count
  if digits.length = count && digits.all Char.isDigit then
    some (digits.foldl (fun value c => value * 10 + (c.toNat - '0'.toNat)) 0, text.drop count)
  else none

/-- Reads one character. -/
def readMark (mark : Char) : List Char → Option (List Char)
  | [] => none
  | c :: rest => if c = mark then some rest else none

/-- A year that has a twenty-ninth of February. -/
def isLeapYear (year : Nat) : Bool :=
  year % 4 = 0 && (year % 100 != 0 || year % 400 = 0)

/-- How many days a month has. -/
def daysInMonth (year month : Nat) : Nat :=
  if month = 2 then if isLeapYear year then 29 else 28
  else if month = 4 || month = 6 || month = 9 || month = 11 then 30
  else 31

/-- Reads a day of the calendar. -/
def readDay (text : List Char) : Option (List Char) := do
  let (year, rest) ← readFixed 4 text
  let (month, rest) ← readFixed 2 (← readMark '-' rest)
  let (day, rest) ← readFixed 2 (← readMark '-' rest)
  if 1 ≤ month && month ≤ 12 && 1 ≤ day && day ≤ daysInMonth year month then some rest
  else none

/-- Reads hours and minutes. -/
def readHours (text : List Char) : Option (List Char) := do
  let (hour, rest) ← readFixed 2 text
  let (minute, rest) ← readFixed 2 (← readMark ':' rest)
  if hour ≤ 23 && minute ≤ 59 then some rest else none

/-- Drops the digits of a second behind a point, if there are any. -/
def dropSecondFraction : List Char → List Char
  | '.' :: c :: rest => if c.isDigit then rest.dropWhile Char.isDigit else '.' :: c :: rest
  | text => text

/-- Reads a time of the day; a minute may have a leap second. -/
def readTime (text : List Char) : Option (List Char) := do
  let (second, rest) ← readFixed 2 (← readMark ':' (← readHours text))
  if second ≤ 60 then some (dropSecondFraction rest) else none

/-- Reads a distance from universal time. -/
def readOffset : List Char → Option (List Char)
  | 'Z' :: rest | 'z' :: rest => some rest
  | '+' :: rest | '-' :: rest => readHours rest
  | _ => none

/-- Reads a time of the day after what separates it from a day, and the offset behind it. -/
def readTimeOfDay : List Char → Option (List Char)
  | c :: rest =>
      if c = 'T' || c = 't' || c = ' ' then
        (readTime rest).map fun rest => (readOffset rest).getD rest
      else none
  | [] => none

/-- Reads a day, with a time or without, or a time alone. -/
def readDate (text : List Char) : Option (List Char) :=
  match readDay text with
  | some rest => some ((readTimeOfDay rest).getD rest)
  | none => readTime text

end LineEditor.Toml
