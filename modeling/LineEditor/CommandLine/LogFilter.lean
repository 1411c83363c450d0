import LineEditor.Pattern.Basic
import LineEditor.Text.Blank
import LineEditor.Unicode.Property

/-! Filters of the log: directives between commas, and what is said of those that are no such. A
directive with blanks in front of it can break the reader off.
-/

namespace LineEditor.LogFilter

open Text (trim)

/-- Why a directive is passed over. -/
inductive Fault where
  | malformed
  | unknownLevel
  /-- The value of a field is no pattern. -/
  | badPattern
  /-- The value of a field is a pattern that looks for boundaries of words beyond ASCII. -/
  | wordBoundary
  deriving DecidableEq, Repr

/-- The wording of a fault. -/
def Fault.message : Fault → String
  | malformed => "invalid filter directive"
  | unknownLevel =>
      "error parsing level filter: expected one of \"off\", \"error\", \"warn\", "
        ++ "\"info\", \"debug\", \"trace\", or a number 0-5"
  | badPattern => "invalid field filter: error building NFA"
  | wordBoundary =>
      "invalid field filter: unsupported regex feature for DFAs: cannot build DFAs for "
        ++ "regexes with Unicode word boundaries; switch to ASCII word boundaries, or "
        ++ "heuristically enable Unicode word boundaries or use a different regex engine"

/-- What comes of reading a directive. The reader crashes where it cuts a character in two. -/
inductive Verdict where
  | accepted
  | ignored (fault : Fault)
  | crashed
  deriving DecidableEq, Repr

/-- The parts of a directive. Each place in it is given by all of the directive from there on: those
where the reader cuts before it is done, and of these the ones around a field, then the level.
-/
structure Outline where
  cuts : List (List Char) := []
  field : Option (List Char × List Char) := none
  level : Except Fault (Option (List Char))

/-- A character that the name of a target may start with. -/
def startsTarget (c : Char) : Bool :=
  c = '-' || c = ':' || c = '_' || Unicode.latestAlphabetic.contains c
    || Unicode.latestNumeric.contains c

/-- The text for the level behind the bracket that closes a span, where there is one. -/
def levelBehind : List Char → Except Fault (Option (List Char))
  | [] => .ok none
  | '=' :: level => .ok (some level)
  | _ => .error .malformed

/-- The parts behind the brace that opens a field in a span. -/
def outlineField (text : List Char) : Outline :=
  let (field, rest) := text.span (· != '\x7d')
  match field, rest with
  | _, [] => { level := .error .malformed }
  | [], _ => { cuts := [text], level := .error .malformed }
  | _, '\x7d' :: ']' :: level =>
      { cuts := [text, rest], field := some (text, rest), level := levelBehind level }
  | _, _ => { cuts := [text, rest], field := some (text, rest), level := .error .malformed }

/-- The parts behind the bracket that opens a span. Braces in the span hold a field. -/
def outlineSpan (text : List Char) : Outline :=
  let rest := text.dropWhile fun c => c != ']' && c != '\x7b'
  match rest with
  | ']' :: level => { cuts := [text, rest], level := levelBehind level }
  | '\x7b' :: field =>
      let outline := outlineField field
      { outline with cuts := text :: rest :: outline.cuts }
  | _ => { level := .error .malformed }

/-- The parts of a directive. -/
def outline (directive : List Char) : Outline :=
  match directive with
  | [] => { level := .error .malformed }
  | '[' :: rest => outlineSpan rest
  | c :: rest =>
      if !startsTarget c then { level := .error .malformed }
      else
        let behind := rest.dropWhile fun c => c != '=' && c != '['
        match behind with
        | '=' :: level => { cuts := [behind], level := .ok (some level) }
        | '[' :: rest =>
            let outline := outlineSpan rest
            { outline with cuts := behind :: outline.cuts }
        | _ => { level := .ok none }

/-- The names of levels. -/
def levelNames : List String := ["off", "error", "warn", "info", "debug", "trace"]

/-- The text is a level: a name in any case, or its number. -/
def isLevel (text : List Char) : Bool :=
  let digits := if text.head? = some '+' then text.tail else text
  levelNames.contains (String.ofList (text.map Char.toLower))
    || (!digits.isEmpty && digits.all Char.isDigit
      && digits.foldl (fun value c => value * 10 + (c.toNat - '0'.toNat)) 0 ≤ 5)

/-- The text is an exponent, with a sign or without, or is empty. -/
def isExponent : List Char → Bool
  | [] => true
  | letter :: text =>
      let digits :=
        match text with
        | '+' :: digits | '-' :: digits => digits
        | digits => digits
      (letter = 'e' || letter = 'E') && !digits.isEmpty && digits.all Char.isDigit

/-- The text is a decimal number without a sign, or a word for what is no finite number. -/
def isUnsignedNumber (text : List Char) : Bool :=
  let (whole, rest) := text.span Char.isDigit
  let (fraction, rest) :=
    match rest with
    | '.' :: rest => rest.span Char.isDigit
    | rest => ([], rest)
  ((!whole.isEmpty || !fraction.isEmpty) && isExponent rest)
    || ["inf", "infinity", "nan"].contains (String.ofList (text.map Char.toLower))

/-- The text is a number with a plus sign, which is no pattern but a value to compare with. All
other numbers are patterns as well.
-/
def isPlusNumber : List Char → Bool
  | '+' :: text => isUnsignedNumber text
  | _ => false

/-- The value that a field is compared with: what stands between the first two equals signs. -/
def fieldValue (field : List Char) : Option (List Char) :=
  match field.dropWhile (· != '=') with
  | _ :: value => some (value.takeWhile (· != '='))
  | [] => none

/-- What is wrong with a field. A value that is no number has to be a pattern for a machine
that looks at bytes one by one.
-/
def fieldFault? (field : List Char) : Option Fault :=
  match fieldValue field with
  | none => none
  | some value =>
      if isPlusNumber value then none
      else
        match Pattern.Expr.ofText false value with
        | .error _ => some .badPattern
        | .ok expr =>
            if expr.anyLook Pattern.Look.needsUnicode then some .wordBoundary else none

/-- The bytes that characters take. -/
def byteCount (text : List Char) : Nat := text.foldl (fun count c => count + c.utf8Size) 0

/-- The text without some bytes at its start, unless they end inside a character. -/
def dropBytes? : Nat → List Char → Option (List Char)
  | 0, text => some text
  | _, [] => none
  | count, c :: text => if c.utf8Size ≤ count then dropBytes? (count - c.utf8Size) text else none

/-- What stands in a directive with its blanks from the place on that a part has in the directive
without them.
-/
def inPlace? (directive inner part : List Char) : Option (List Char) :=
  dropBytes? (byteCount inner - byteCount part) directive

/-- Reads a directive. Blanks around it are no part of it, but its parts are looked for at their
places in the directive with its blanks, which puts other characters into them, or cuts one.
-/
def verdict (directive : String) : Verdict :=
  let text := directive.toList
  let inner := trim text
  let outline := outline inner
  let place? := inPlace? text inner
  if outline.cuts.any fun cut => (place? cut).isNone then .crashed
  else
    let fieldFault := do
      let (field, behind) ← outline.field
      let placed ← place? field
      let rest ← place? behind
      fieldFault? (placed.take (placed.length - rest.length))
    match fieldFault, outline.level with
    | some fault, _ | none, .error fault => .ignored fault
    | none, .ok none => .accepted
    | none, .ok (some level) =>
        match place? level with
        | none => .crashed
        | some level => if level.isEmpty || isLevel level then .accepted else .ignored .unknownLevel

/-- The directives of a filter, between its commas. -/
def directives (filter : String) : List String :=
  (filter.toList.splitOn ',').map String.ofList

/-- The reader crashes on a directive of the filter. -/
def crashes (filter : String) : Bool :=
  (directives filter).any fun directive => verdict directive = .crashed

/-- The directives of a filter in front of the first one that the reader crashes on. -/
def readDirectives (filter : String) : List String :=
  (directives filter).takeWhile fun directive => verdict directive != .crashed

/-- What is said of the directives of a filter that are passed over, a line for each. -/
def warnings (filter : String) : String :=
  String.join ((readDirectives filter).map fun directive =>
    match verdict directive with
    | .ignored fault =>
        if directive.isEmpty then ""
        else "ignoring \x60" ++ directive ++ "\x60: " ++ fault.message ++ "\n"
    | _ => "")

/-- The first cut behind a blank of two bytes is inside the blank. -/
example
    : verdict "\u00a0_=5" = .crashed
      ∧ warnings "_=6,\u00a0_=5,_=7"
        = "ignoring \x60_=6\x60: " ++ Fault.unknownLevel.message ++ "\n" := by
  decide +kernel

end LineEditor.LogFilter
