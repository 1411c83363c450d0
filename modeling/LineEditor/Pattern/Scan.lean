import LineEditor.Pattern.Fault
import LineEditor.Text.Blank

/-! Scanning of pattern text: ignored white space and comments, runs of characters, decimals. -/

namespace LineEditor.Pattern

open Text (isBlank)

/-- A step of reading a pattern, which may find a fault; most steps give what they read and the
text after it.
-/
abbrev Fallible := Except PatternFault

/-- Drops white space and comments; a comment runs from a number sign to the line's end. -/
def skipComments (inComment : Bool) : List Char → List Char
  | [] => []
  | c :: text =>
      if inComment then skipComments (c != '\n') text
      else if isBlank c then skipComments false text
      else if c = '#' then skipComments true text
      else c :: text

/-- Drops white space and comments where the verbose flag makes them meaningless. -/
def skip (verbose : Bool) (text : List Char) : List Char :=
  if verbose then skipComments false text else text

/-- The first character after the current one that verbose reading would not ignore. -/
def peekPast (verbose : Bool) (text : List Char) : Option Char :=
  if verbose then
    match text.dropWhile isBlank with
    | '#' :: rest => (rest.dropWhile isBlank).head?
    | rest => rest.head?
  else text.head?

/-- The longest run of accepted characters at the start, and the text after it. What verbose
reading ignores may stand before, between and after the characters.
-/
def scanRun (verbose inComment : Bool) (accepts : Char → Bool)
    : List Char → List Char × List Char
  | [] => ([], [])
  | c :: text =>
      if inComment then scanRun verbose (c != '\n') accepts text
      else if verbose && isBlank c then scanRun verbose false accepts text
      else if verbose && c == '#' then scanRun verbose true accepts text
      else if accepts c then
        let (run, rest) := scanRun verbose false accepts text
        (c :: run, rest)
      else ([], c :: text)

/-- The run of accepted characters at the start of a text. -/
def readRun (verbose : Bool) (accepts : Char → Bool) (text : List Char)
    : List Char × List Char :=
  scanRun verbose false accepts text

/-- The number that decimal digits spell. -/
def decimalValue (digits : List Char) : Nat :=
  digits.foldl (fun value digit => value * 10 + (digit.toNat - '0'.toNat)) 0

/-- The greatest count a repetition may ask for. -/
def countLimit : Nat := 4294967295

/-- A count, with blanks around it; without digits or above the limit there is none, and the
text after it is the same.
-/
def readCount (verbose : Bool) (text : List Char)
    : Fallible Nat × List Char :=
  let (digits, rest) := readRun verbose Char.isDigit (text.dropWhile isBlank)
  let rest := skip verbose (rest.dropWhile isBlank)
  let count :=
    if digits.isEmpty then .error .countEmpty
    else if decimalValue digits ≤ countLimit then .ok (decimalValue digits)
    else .error .decimalInvalid
  (count, rest)

end LineEditor.Pattern
