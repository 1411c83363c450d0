import LineEditor.Context
import LineEditor.Text.Field

/-! Addresses: one token that names a line by number, position, offset or pattern. -/

namespace LineEditor

open Text (Field unescape)

/-- The greatest index that an address may compute. -/
def indexLimit : Int := 9223372036854775807

/-- Which address of a range is read; a search for the second one starts at the first. -/
inductive Slot where
  | first
  | second (first : Int)
  deriving DecidableEq, Repr

namespace Slot

/-- Where a search starts. -/
def origin (slot : Slot) (dot : Nat) : Int :=
  match slot with
  | .first => dot
  | .second start => start

end Slot

/-- The pattern in a delimited field. Escapes of the delimiter stay where the delimiter has a
meaning in patterns, because there the escape takes that meaning away.
-/
def patternBody (delimiter : Char) (body : List Char) : List Char :=
  if Pattern.isMeta delimiter then body else unescape delimiter body

/-- Reads decimal digits, if there are any, as a number within the limit. -/
def readNumber (text : List Char) : Except EditError (Option Nat × List Char) :=
  let (digits, rest) := text.span Char.isDigit
  if digits.isEmpty then .ok (none, rest)
  else if (Pattern.decimalValue digits : Int) ≤ indexLimit then
    .ok (some (Pattern.decimalValue digits), rest)
  else .error .badRange

/-- The index at a distance from the current line, if it is within the limit. -/
def offsetIndex (dot : Nat) (distance : Int) : Except EditError Int :=
  if (dot : Int) + distance ≤ indexLimit then .ok (dot + distance) else .error .badRange

/-- The nearest line that matches, after the start for a slash and before it for a question
mark. The start has to be a line of the buffer.
-/
def Buffer.findLine (buffer : Buffer) (forward : Bool) (pattern : Pattern) (start : Int)
    : Except EditError Nat :=
  if start < 0 || start > max buffer.lastIndex 0 then .error .badRange
  else
    let found :=
      if forward then buffer.searchForward pattern.isMatch start.toNat
      else buffer.searchBackward pattern.isMatch start.toNat
    match found with
    | some index => .ok index
    | none => .error .noMatch

/-- Reads a search after its delimiter. Its pattern is remembered before the search is made. -/
def Context.readSearch (context : Context) (slot : Slot) (delimiter : Char)
    (text : List Char) : Recalled (Option Int × List Char) :=
  let field := Field.cut delimiter text
  if !field.closed then (.error (.badPattern .unterminated), context.memory)
  else
    match context.recallPattern (patternBody delimiter field.body) with
    | (.error error, memory) => (.error error, memory)
    | (.ok pattern, memory) =>
        match context.buffer.findLine (delimiter == '/') pattern
            (slot.origin context.buffer.dot) with
        | .ok index => (.ok (some (index : Int), field.rest), memory)
        | .error error => (.error error, memory)

/-- Reads an address that needs no memory. Where none stands the text is left alone; a comma
in the first place stands for the first line and is left to the range.
-/
def Buffer.readPlainAddress (buffer : Buffer) (slot : Slot) (text : List Char)
    : Except EditError (Option Int × List Char) :=
  match text with
  | [] => .ok (none, text)
  | c :: rest =>
      match c with
      | '^' => .ok (some 0, rest)
      | '$' => .ok (some buffer.lastIndex, rest)
      | '.' => .ok (some buffer.dot, rest)
      | ',' => if slot = .first then .ok (some 0, text) else .ok (none, text)
      | '+' => do
          let (number, rest) ← readNumber rest
          return (some (← offsetIndex buffer.dot (number.getD 1)), rest)
      | '-' => do
          let (number, rest) ← readNumber rest
          return (some (← offsetIndex buffer.dot (-(number.getD 1 : Nat))), rest)
      | _ =>
          if c.isDigit then do
            let (number, rest) ← readNumber text
            return (number.map fun number => (number : Int) - 1, rest)
          else .ok (none, text)

/-- Reads one address. -/
def Context.readAddress (context : Context) (slot : Slot) (text : List Char)
    : Recalled (Option Int × List Char) :=
  match text with
  | '/' :: rest => context.readSearch slot '/' rest
  | '?' :: rest => context.readSearch slot '?' rest
  | _ => (context.buffer.readPlainAddress slot text, context.memory)

end LineEditor
