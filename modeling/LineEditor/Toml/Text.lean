/-! Strings of configuration documents: reading their four written forms, and choosing one. -/

namespace LineEditor.Toml

/-- The character stands for itself in strings and comments: no control except the tab. -/
def isPlain (c : Char) : Bool :=
  c = '\t' || (' ' ≤ c && c != '\x7F')

/-- Puts a character in front of what was read. -/
def withChar (c : Char) (found : Option (List Char × List Char))
    : Option (List Char × List Char) :=
  found.map fun (text, rest) => (c :: text, rest)

----------------------------------------------------------------------------------------
-- Escapes
----------------------------------------------------------------------------------------

/-- The value of a hexadecimal digit. -/
def hexValue (c : Char) : Option Nat :=
  if '0' ≤ c && c ≤ '9' then some (c.toNat - '0'.toNat)
  else if 'a' ≤ c && c ≤ 'f' then some (c.toNat - 'a'.toNat + 10)
  else if 'A' ≤ c && c ≤ 'F' then some (c.toNat - 'A'.toNat + 10)
  else none

/-- The number that hexadecimal digits spell. -/
def hexNumber (digits : List Char) : Option Nat :=
  digits.foldlM (fun value c => (hexValue c).map (value * 16 + ·)) 0

/-- The character with a code that a fixed count of hexadecimal digits spells. -/
def codedChar (count : Nat) (text : List Char) : Option Char := do
  if (text.take count).length = count then
    let code ← hexNumber (text.take count)
    if code.isValidChar then some (Char.ofNat code) else none
  else none

/-- The character that an escape stands for, and how many characters the escape has after its
backslash.
-/
def escapedChar : List Char → Option (Char × Nat)
  | [] => none
  | c :: text =>
      if c = 'b' then some ('\x08', 1)
      else if c = 'f' then some ('\x0C', 1)
      else if c = 'n' then some ('\n', 1)
      else if c = 'r' then some ('\r', 1)
      else if c = 't' then some ('\t', 1)
      else if c = '\\' || c = '"' then some (c, 1)
      else if c = 'u' then (codedChar 4 text).map fun found => (found, 5)
      else if c = 'U' then (codedChar 8 text).map fun found => (found, 9)
      else none

----------------------------------------------------------------------------------------
-- Strings of one line
----------------------------------------------------------------------------------------

/-- Reads a string with escapes after its quote, up to the quote that closes it, when a number
of characters is still to be skipped.
-/
def readBasic : Nat → List Char → Option (List Char × List Char)
  | _, [] => none
  | skip + 1, _ :: rest => readBasic skip rest
  | 0, c :: rest =>
      if c = '"' then some ([], rest)
      else if c = '\\' then
        match escapedChar rest with
        | some (found, length) => withChar found (readBasic length rest)
        | none => none
      else if isPlain c then withChar c (readBasic 0 rest)
      else none

/-- Reads a string without escapes after its quote. -/
def readLiteral : List Char → Option (List Char × List Char)
  | [] => none
  | c :: rest =>
      if c = '\'' then some ([], rest)
      else if isPlain c then withChar c (readLiteral rest)
      else none

----------------------------------------------------------------------------------------
-- Strings of several lines
----------------------------------------------------------------------------------------

/-- A blank inside a line. -/
def isSpace (c : Char) : Bool := c = ' ' || c = '\t'

/-- Drops a line end, if the text starts with one. -/
def lineEnd? : List Char → Option (List Char)
  | '\n' :: rest => some rest
  | '\r' :: '\n' :: rest => some rest
  | _ => none

/-- Drops blanks and line ends. -/
def dropGap : List Char → List Char
  | [] => []
  | c :: rest =>
      if isSpace c || c = '\n' then dropGap rest
      else if c = '\r' && rest.head? = some '\n' then dropGap rest
      else c :: rest

/-- How many characters a backslash at the end of a line hides: the line end and all blanks and
line ends around it.
-/
def gapLength? (text : List Char) : Option Nat := do
  let rest ← lineEnd? (text.dropWhile isSpace)
  return text.length - (dropGap rest).length

/-- What a string ends with, after one quote of those that close it: up to two quotes in front
of the closing three belong to the string.
-/
def closing? (quote : Char) (text : List Char) : Option (List Char × List Char) :=
  match text with
  | second :: third :: rest =>
      if second = quote && third = quote then
        let inner := (rest.takeWhile (· = quote)).take 2
        some (inner, rest.drop inner.length)
      else none
  | _ => none

/-- Reads a string of several lines with escapes after its quotes, when a number of characters
is still to be skipped.
-/
def readLongBasic : Nat → List Char → Option (List Char × List Char)
  | _, [] => none
  | skip + 1, _ :: rest => readLongBasic skip rest
  | 0, c :: rest =>
      if c = '"' then
        match closing? c rest with
        | some found => some found
        | none => withChar c (readLongBasic 0 rest)
      else if c = '\\' then
        match gapLength? rest with
        | some length => readLongBasic length rest
        | none =>
            match escapedChar rest with
            | some (found, length) => withChar found (readLongBasic length rest)
            | none => none
      else if c = '\r' && rest.head? = some '\n' then readLongBasic 0 rest
      else if isPlain c || c = '\n' then withChar c (readLongBasic 0 rest)
      else none

/-- Reads a string of several lines without escapes after its quotes. -/
def readLongLiteral : List Char → Option (List Char × List Char)
  | [] => none
  | c :: rest =>
      if c = '\'' then
        match closing? c rest with
        | some found => some found
        | none => withChar c (readLongLiteral rest)
      else if c = '\r' && rest.head? = some '\n' then readLongLiteral rest
      else if isPlain c || c = '\n' then withChar c (readLongLiteral rest)
      else none

/-- Reads a string of one line, which is also the form of a quoted key. -/
def readLine : List Char → Option (List Char × List Char)
  | '"' :: rest => readBasic 0 rest
  | '\'' :: rest => readLiteral rest
  | _ => none

/-- Reads a string in any form; a line end right after the quotes of a long form is dropped. -/
def readText (text : List Char) : Option (List Char × List Char) :=
  match text with
  | '"' :: '"' :: '"' :: rest => readLongBasic 0 ((lineEnd? rest).getD rest)
  | '\'' :: '\'' :: '\'' :: rest => readLongLiteral ((lineEnd? rest).getD rest)
  | _ => readLine text

----------------------------------------------------------------------------------------
-- Writing
----------------------------------------------------------------------------------------

/-- The written forms of a string. -/
inductive TextForm where
  | basic
  | literal
  | longBasic
  | longLiteral
  deriving DecidableEq, Repr

/-- The length of the longest run of a character, when a run of some length is under way. -/
def longestRun (wanted : Char) : Nat → List Char → Nat
  | run, [] => run
  | run, c :: text =>
      if c = wanted then longestRun wanted (run + 1) text
      else max run (longestRun wanted 0 text)

/-- The character can only be written as an escape: a control other than a tab or line feed. -/
def needsCode (c : Char) : Bool :=
  !isPlain c && c != '\n'

/-- The form in which a string is written: the first one of the short and then the long forms
that needs no escape, or else a form with escapes.
-/
def TextForm.choose (text : List Char) : TextForm :=
  let codes := text.any needsCode
  let backslash := text.contains '\\'
  let lines := text.contains '\n'
  let double := longestRun '"' 0 text
  let single := longestRun '\'' 0 text
  if !codes && !backslash && double = 0 && !lines then .basic
  else if !codes && single = 0 && !lines then .literal
  else if !codes && !backslash && double ≤ 2 then .longBasic
  else if !codes && single ≤ 2 then .longLiteral
  else if lines then .longBasic
  else .basic

/-- The escape of a character by its code in four capital digits. -/
def codeEscape (c : Char) : List Char :=
  let digits := (Nat.toDigits 16 c.toNat).map Char.toUpper
  ['\\', 'u'] ++ List.replicate (4 - digits.length) '0' ++ digits

/-- The form of a character other than a quote or a line feed where escapes are in use. -/
def escapeChar (c : Char) : List Char :=
  if c = '\x08' then ['\\', 'b']
  else if c = '\t' then ['\\', 't']
  else if c = '\x0C' then ['\\', 'f']
  else if c = '\r' then ['\\', 'r']
  else if c = '\\' then ['\\', '\\']
  else if isPlain c then [c]
  else codeEscape c

/-- The inside of a string of one line with escapes. -/
def writeBasic (text : List Char) : List Char :=
  text.flatMap fun c =>
    if c = '"' then ['\\', '"'] else if c = '\n' then ['\\', 'n'] else escapeChar c

/-- The inside of a string of several lines with escapes, when some quotes have just been
written. Every third quote in a row is escaped, so that no three close the string.
-/
def writeLongBasic : Nat → List Char → List Char
  | _, [] => []
  | run, c :: text =>
      if c = '"' then
        if run < 2 then c :: writeLongBasic (run + 1) text
        else '\\' :: c :: writeLongBasic 0 text
      else if c = '\n' then c :: writeLongBasic 0 text
      else escapeChar c ++ writeLongBasic 0 text

/-- Writes a string. A long form starts on a line of its own if the string has several. -/
def writeText (text : List Char) : List Char :=
  let start := if text.contains '\n' then ['\n'] else []
  match TextForm.choose text with
  | .basic => '"' :: writeBasic text ++ ['"']
  | .literal => '\'' :: text ++ ['\'']
  | .longBasic => "\"\"\"".toList ++ start ++ writeLongBasic 0 text ++ "\"\"\"".toList
  | .longLiteral => "'''".toList ++ start ++ text ++ "'''".toList

end LineEditor.Toml
