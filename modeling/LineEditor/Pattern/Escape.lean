import LineEditor.Pattern.Scan
import LineEditor.Pattern.Syntax

/-! Reading of escape sequences: literals, classes, properties and assertions after a backslash. -/

namespace LineEditor.Pattern

open Text (isBlank)
open Unicode (PropertyQuery)

/-- Characters that the pattern syntax uses, so that an escape is needed to mean them. -/
def isMeta (c : Char) : Bool :=
  "\\.+*?()|[]\x7b\x7d^$#&-~".toList.contains c

/-- Characters that may be escaped to mean themselves: all of ASCII except letters, digits and
the angle brackets.
-/
def isEscapable (c : Char) : Bool :=
  isMeta c || (c.toNat < 0x80 && !c.isAlphanum && c != '<' && c != '>')

/-- Hexadecimal digits in either case. -/
def isHexDigit (c : Char) : Bool :=
  c.isDigit || ('a' ≤ c && c ≤ 'f') || ('A' ≤ c && c ≤ 'F')

/-- The value of a hexadecimal digit. -/
def hexDigitValue (c : Char) : Nat :=
  if c.isDigit then c.toNat - '0'.toNat
  else if 'a' ≤ c then c.toNat - 'a'.toNat + 10
  else c.toNat - 'A'.toNat + 10

/-- The number that hexadecimal digits spell. -/
def hexValue (digits : List Char) : Nat :=
  digits.foldl (fun value digit => value * 16 + hexDigitValue digit) 0

/-- The character with a code, unless the code is a surrogate or too great. -/
def character? (code : Nat) : Option Char :=
  if h : code.isValidChar then some (Char.ofNatAux code h) else none

/-- Reads exactly the given number of hexadecimal digits. -/
def readHexDigits (verbose : Bool) : Nat → List Char → Fallible (List Char × List Char)
  | 0, text => .ok ([], text)
  | count + 1, text =>
      match skip verbose text with
      | [] => .error .escapeAtEnd
      | c :: rest =>
          if isHexDigit c then do
            let (digits, rest) ← readHexDigits verbose count rest
            .ok (c :: digits, rest)
          else .error .hexDigit

/-- The literal that hexadecimal digits denote. -/
def hexLiteral (byte : Bool) (digits text : List Char) : Fallible (Node × List Char) :=
  match character? (hexValue digits) with
  | some c => .ok (.literal ⟨c, byte⟩, text)
  | none => .error .hexNotCharacter

/-- Reads a hexadecimal literal after its letter: digits in braces, or as many as the letter
asks for.
-/
def readHex (verbose : Bool) (width : Nat) (text : List Char) : Fallible (Node × List Char) :=
  match skip verbose text with
  | [] => .error .escapeAtEnd
  | '{' :: rest =>
      match readRun verbose isHexDigit rest with
      | (_, []) => .error .escapeAtEnd
      | (digits, '}' :: rest) =>
          if digits.isEmpty then .error .hexEmpty
          else hexLiteral false digits (skip verbose rest)
      | _ => .error .hexDigit
  | rest => do
      let (digits, rest) ← readHexDigits verbose width rest
      hexLiteral (width == 2) digits (skip verbose rest)

/-- Splits a text at the first occurrence of a separator. -/
def splitOnce (separator : List Char) : List Char → Option (List Char × List Char)
  | [] => none
  | c :: text =>
      if separator.isPrefixOf (c :: text) then some ([], (c :: text).drop separator.length)
      else (splitOnce separator text).map fun (before, after) => (c :: before, after)

/-- The query that the text in braces makes; an unequal sign asks for the opposite. -/
def propertyOf (negated : Bool) (name : List Char) : Node :=
  let valued (negated : Bool) (parts : List Char × List Char) : Node :=
    .property (.valued (String.ofList parts.1) (String.ofList parts.2)) negated
  match splitOnce ['!', '='] name with
  | some parts => valued (!negated) parts
  | none =>
      match (splitOnce [':'] name).or (splitOnce ['='] name) with
      | some parts => valued negated parts
      | none => .property (.named (String.ofList name)) negated

/-- Reads a property after its letter: a name in braces or a single letter. -/
def readProperty (verbose negated : Bool) (text : List Char) : Fallible (Node × List Char) :=
  match skip verbose text with
  | [] => .error .escapeAtEnd
  | '{' :: rest =>
      match readRun verbose (· != '}') rest with
      | (name, _ :: rest) => .ok (propertyOf negated name, rest)
      | (_, []) => .error .escapeAtEnd
  | '\\' :: _ => .error .propertySyntax
  | c :: rest =>
      .ok (.property (.named (String.singleton c)) negated, skip verbose rest)

/-- The assertion that a name in braces after a word boundary selects. -/
def boundaryNamed (name : List Char) : Option Assertion :=
  if name = "start".toList then some .wordStart
  else if name = "end".toList then some .wordEnd
  else if name = "start-half".toList then some .wordStartHalf
  else if name = "end-half".toList then some .wordEndHalf
  else none

/-- Reads what follows a word boundary. A brace begins the name of a special boundary if a
letter or hyphen follows, else it is left for a count.
-/
def readBoundary (verbose : Bool) (text : List Char) : Fallible (Node × List Char) :=
  let plain : Fallible (Node × List Char) := .ok (.assertion .wordBoundary, text)
  let inName (c : Char) : Bool := c.isAlpha || c == '-'
  match text with
  | '{' :: rest =>
      match skip verbose rest with
      | [] => .error .boundaryAtEnd
      | c :: rest =>
          if inName c then
            match readRun verbose inName (c :: rest) with
            | (name, '}' :: rest) =>
                match boundaryNamed name with
                | some assertion => .ok (.assertion assertion, rest)
                | none => .error .boundaryUnknown
            | _ => .error .boundaryUnclosed
          else plain
  | _ => plain

/-- A literal that is not spelled by its code. -/
def Node.character (c : Char) : Node := .literal ⟨c, false⟩

/-- Reads an escape after its backslash. -/
def readEscape (verbose : Bool) (text : List Char) : Fallible (Node × List Char) :=
  match text with
  | [] => .error .escapeAtEnd
  | c :: rest =>
      let literal (c : Char) : Fallible (Node × List Char) := .ok (.character c, rest)
      let shorthand (kind : Shorthand) (negated : Bool) : Fallible (Node × List Char) :=
        .ok (.shorthand kind negated, rest)
      let assertion (assertion : Assertion) : Fallible (Node × List Char) :=
        .ok (.assertion assertion, rest)
      if c.isDigit then .error .backreference
      else
        match c with
        | 'x' => readHex verbose 2 rest
        | 'u' => readHex verbose 4 rest
        | 'U' => readHex verbose 8 rest
        | 'p' => readProperty verbose false rest
        | 'P' => readProperty verbose true rest
        | 'd' => shorthand .digit false
        | 'D' => shorthand .digit true
        | 's' => shorthand .space false
        | 'S' => shorthand .space true
        | 'w' => shorthand .word false
        | 'W' => shorthand .word true
        | 'a' => literal '\x07'
        | 'f' => literal '\x0C'
        | 't' => literal '\t'
        | 'n' => literal '\n'
        | 'r' => literal '\r'
        | 'v' => literal '\x0B'
        | 'A' => assertion .textStart
        | 'z' => assertion .textEnd
        | 'b' => readBoundary verbose rest
        | 'B' => assertion .notWordBoundary
        | '<' => assertion .wordStart
        | '>' => assertion .wordEnd
        | _ => if isEscapable c then literal c else .error .escapeUnknown

end LineEditor.Pattern
