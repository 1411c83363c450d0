/-! Numbers of configuration documents: which texts are numbers, and which are too great. -/

namespace LineEditor.Toml

/-- A digit of a base up to sixteen. -/
def isDigitOf (base : Nat) (c : Char) : Bool :=
  if base = 16 then c.isDigit || ('a' ≤ c && c ≤ 'f') || ('A' ≤ c && c ≤ 'F')
  else c.isDigit && c.toNat < '0'.toNat + base

/-- The value of a digit. -/
def digitValue (c : Char) : Nat :=
  if c.isDigit then c.toNat - '0'.toNat else c.toLower.toNat - 'a'.toNat + 10

/-- The number that digits spell. -/
def digitsValue (base : Nat) (digits : List Char) : Nat :=
  digits.foldl (fun value c => value * base + digitValue c) 0

/-- Takes digits with single underscores between them, which are left out. -/
def moreDigits (base : Nat) : List Char → List Char × List Char
  | [] => ([], [])
  | [c] => if isDigitOf base c then ([c], []) else ([], [c])
  | c :: next :: rest =>
      if isDigitOf base c then
        let (digits, rest) := moreDigits base (next :: rest)
        (c :: digits, rest)
      else if c = '_' && isDigitOf base next then moreDigits base (next :: rest)
      else ([], c :: next :: rest)

/-- Takes one or more digits. -/
def someDigits (base : Nat) (text : List Char) : Option (List Char × List Char) :=
  if text.head?.any (isDigitOf base) then some (moreDigits base text) else none

/-- Takes a sign and tells whether it is a minus. -/
def readSign : List Char → Bool × List Char
  | '-' :: rest => (true, rest)
  | '+' :: rest => (false, rest)
  | text => (false, text)

/-- Takes the digits of a decimal number, of which a leading zero is the only one. -/
def wholeDigits : List Char → Option (List Char × List Char)
  | '0' :: rest => some (['0'], rest)
  | text => someDigits 10 text

/-- The least number above the whole numbers, in size the greatest one below zero. -/
def wholeLimit : Nat := Nat.pow 2 63

/-- Reads a whole number in a base other than ten after its mark. -/
def readBased (base : Nat) (text : List Char) : Option (List Char) := do
  let (digits, rest) ← someDigits base text
  if digitsValue base digits < wholeLimit then some rest else none

/-- Reads a whole number and gives the text after it. -/
def readWhole (text : List Char) : Option (List Char) :=
  match text with
  | '0' :: 'x' :: rest => readBased 16 rest
  | '0' :: 'o' :: rest => readBased 8 rest
  | '0' :: 'b' :: rest => readBased 2 rest
  | _ => do
      let (negative, rest) := readSign text
      let (digits, rest) ← wholeDigits rest
      let value := digitsValue 10 digits
      if value < wholeLimit || (negative && value = wholeLimit) then some rest else none

/-- The least number that is nearer to the next power of two than to the greatest finite
double-precision number, or as near.
-/
def fractionLimit : Nat := (Nat.pow 2 54 - 1) * Nat.pow 2 970

/-- A number with some digits, scaled by a power of ten, has no finite nearest number in double
precision. Numbers far from the limit are told by the place of their first digit.
-/
def isTooGreat (digits : List Char) (scale : Int) : Bool :=
  let digits := digits.dropWhile (· = '0')
  let value := digitsValue 10 digits
  let places := digits.length + scale
  if digits.isEmpty || places < 300 then false
  else if places > 320 then true
  else if 0 ≤ scale then fractionLimit ≤ value * Nat.pow 10 scale.toNat
  else fractionLimit * Nat.pow 10 (-scale).toNat ≤ value

/-- Reads an exponent after its letter. -/
def readExponent (text : List Char) : Option (Int × List Char) := do
  let (negative, rest) := readSign text
  let (digits, rest) ← someDigits 10 rest
  let value : Int := digitsValue 10 digits
  return (if negative then -value else value, rest)

/-- The letter of an exponent is next. -/
def atExponent (text : List Char) : Bool :=
  text.head?.any fun c => c = 'e' || c = 'E'

/-- Reads the digits behind a point, if there are any, and then an exponent, if there is one; a
number without either is no fraction.
-/
def readScale (text : List Char) : Option (List Char × Int × List Char) :=
  match text with
  | '.' :: rest => do
      let (digits, rest) ← someDigits 10 rest
      if atExponent rest then
        let (exponent, rest) ← readExponent rest.tail
        return (digits, exponent, rest)
      else return (digits, 0, rest)
  | _ => do
      if atExponent text then
        let (exponent, rest) ← readExponent text.tail
        return ([], exponent, rest)
      else none

/-- Reads a fixed word and gives the text after it. -/
def readWord (word : String) (text : List Char) : Option (List Char) :=
  if word.toList.isPrefixOf text then some (text.drop word.length) else none

/-- Reads a number with a fraction or an exponent, or one of the words for what is no finite
number. A positive number may not be too great.
-/
def readFraction (text : List Char) : Option (List Char) :=
  let (negative, unsigned) := readSign text
  let finite : Option (List Char) := do
    let (whole, rest) ← wholeDigits unsigned
    let (digits, exponent, rest) ← readScale rest
    if !negative && isTooGreat (whole ++ digits) (exponent - digits.length) then none
    else some rest
  finite <|> readWord "inf" unsigned <|> readWord "nan" unsigned

end LineEditor.Toml
