import LineEditor.Text.Blank

/-! The causes for which a pattern is refused, and the wording of each. -/

namespace LineEditor

/-- Why a pattern cannot be used. -/
inductive PatternFault where
  /-- The delimiter that ends the pattern is missing. -/
  | unterminated
  | classEscape
  | classRangeOrder
  | classRangeBoundary
  | classUnclosed
  | decimalInvalid
  | hexEmpty
  | hexNotCharacter
  | hexDigit
  | escapeAtEnd
  | escapeUnknown
  | flagNegationDangling
  | flagNegationRepeated
  | flagRepeated
  | flagAtEnd
  | flagUnknown
  | nameRepeated
  | nameEmpty
  | nameCharacter
  | nameUnclosed
  | groupUnclosed
  | groupUnopened
  | nestingTooDeep
  | countOrder
  | countEmpty
  | countUnclosed
  | nothingToRepeat
  | boundaryUnclosed
  | boundaryUnknown
  | boundaryAtEnd
  | propertySyntax
  | backreference
  | lookAround
  /-- A character or property beyond ASCII stands where characters are bytes. -/
  | beyondAscii
  /-- The pattern could match a part of a character. -/
  | partialCharacter
  | propertyUnknown
  | propertyValueUnknown
  | tooLarge
  deriving DecidableEq, Repr

namespace PatternFault

/-- How deep groups, classes and repetitions may nest. -/
def nestingLimit : Nat := 250

/-- How many bytes a compiled pattern may take. -/
def sizeLimit : Nat := 10485760

/-- The wording of a fault that lies in the text of the pattern. -/
def explanation : PatternFault → String
  | unterminated => "unterminated pattern"
  | classEscape => "invalid escape sequence found in character class"
  | classRangeOrder => "invalid character class range, the start must be <= the end"
  | classRangeBoundary => "invalid range boundary, must be a literal"
  | classUnclosed => "unclosed character class"
  | decimalInvalid => "decimal literal invalid"
  | hexEmpty => "hexadecimal literal empty"
  | hexNotCharacter => "hexadecimal literal is not a Unicode scalar value"
  | hexDigit => "invalid hexadecimal digit"
  | escapeAtEnd => "incomplete escape sequence, reached end of pattern prematurely"
  | escapeUnknown => "unrecognized escape sequence"
  | flagNegationDangling => "dangling flag negation operator"
  | flagNegationRepeated => "flag negation operator repeated"
  | flagRepeated => "duplicate flag"
  | flagAtEnd => "expected flag but got end of regex"
  | flagUnknown => "unrecognized flag"
  | nameRepeated => "duplicate capture group name"
  | nameEmpty => "empty capture group name"
  | nameCharacter => "invalid capture group character"
  | nameUnclosed => "unclosed capture group name"
  | groupUnclosed => "unclosed group"
  | groupUnopened => "unopened group"
  | nestingTooDeep =>
      s!"exceed the maximum number of nested parentheses/brackets ({nestingLimit})"
  | countOrder => "invalid repetition count range, the start must be <= the end"
  | countEmpty => "repetition quantifier expects a valid decimal"
  | countUnclosed => "unclosed counted repetition"
  | nothingToRepeat => "repetition operator missing expression"
  | boundaryUnclosed =>
      "special word boundary assertion is either unclosed or contains an invalid character"
  | boundaryUnknown =>
      "unrecognized special word boundary assertion, "
        ++ "valid choices are: start, end, start-half or end-half"
  | boundaryAtEnd =>
      "found either the beginning of a special word boundary or a bounded repetition "
        ++ "on a \\b with an opening brace, but no closing brace"
  | propertySyntax => "invalid Unicode character class"
  | backreference => "backreferences are not supported"
  | lookAround => "look-around, including look-ahead and look-behind, is not supported"
  | beyondAscii => "Unicode not allowed here"
  | partialCharacter => "pattern can match invalid UTF-8"
  | propertyUnknown => "Unicode property not found"
  | propertyValueUnknown => "Unicode property value not found"
  | tooLarge => s!"Compiled regex exceeds size limit of {sizeLimit} bytes."

/-- The report of a fault, with the lines of the pattern that show its place. A pattern that is too
large has no such place.
-/
def report (fault : PatternFault) (excerpt : List String) : String :=
  match fault with
  | tooLarge => fault.explanation
  | _ =>
      "\n".intercalate ("regex parse error:" :: excerpt ++ ["error: " ++ fault.explanation])

/-- The wording shown to the user: what the report of the fault comes to, wherever its place is. A
delimiter that is missing is noticed before there is a pattern to report on.
-/
def message (fault : PatternFault) : String :=
  match fault with
  | unterminated => fault.explanation
  | _ => Text.summary (fault.report [])

end PatternFault

end LineEditor
