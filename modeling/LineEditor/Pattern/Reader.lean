import LineEditor.Pattern.Bracket
import LineEditor.Unicode.Property

/-! Reading of whole patterns: groups, flags, alternations and repetitions around single items. -/

namespace LineEditor.Pattern

open Text (isBlank)

----------------------------------------------------------------------------------------
-- Flags and names of groups
----------------------------------------------------------------------------------------

/-- The flag with a letter. -/
def Flag.lettered : Char → Option Flag
  | 'i' => some .ignoreCase
  | 'm' => some .multiLine
  | 's' => some .dotAll
  | 'U' => some .swapGreed
  | 'u' => some .unicode
  | 'R' => some .crlf
  | 'x' => some .verbose
  | _ => none

/-- Reads flags up to the colon or parenthesis that ends them, which stays in the text. A
hyphen, allowed once, turns the flags after it off and needs one.
-/
def readFlags (changes : FlagChanges) (negated dangling : Bool)
    : List Char → Fallible (FlagChanges × List Char)
  | [] => .error .flagAtEnd
  | c :: text =>
      if c = ':' || c = ')' then
        if dangling then .error .flagNegationDangling
        else .ok (changes.reverse, c :: text)
      else if c = '-' then
        if negated then .error .flagNegationRepeated
        else readFlags changes true true text
      else
        match Flag.lettered c with
        | none => .error .flagUnknown
        | some flag =>
            if changes.any (·.1 == flag) then .error .flagRepeated
            else readFlags ((flag, !negated) :: changes) negated false text

/-- Characters of a group's name; a name starts with a letter or an underscore. -/
def isNameCharacter (first : Bool) (c : Char) : Bool :=
  c == '_' || Unicode.latestAlphabetic.contains c
    || (!first && (c == '.' || c == '[' || c == ']' || Unicode.latestNumeric.contains c))

/-- Reads a group's name up to the bracket that ends it. -/
def readName (first : Bool) : List Char → Fallible (List Char × List Char)
  | [] => .error .nameUnclosed
  | c :: text =>
      if c = '>' then .ok ([], text)
      else if isNameCharacter first c then do
        let (name, rest) ← readName false text
        .ok (c :: name, rest)
      else .error .nameCharacter

/-- The flag's new state, if the changes set it; they name each flag at most once. -/
def FlagChanges.state? (changes : FlagChanges) (flag : Flag) : Option Bool :=
  (changes.find? fun change => change.1 == flag).map (·.2)

----------------------------------------------------------------------------------------
-- Open groups
----------------------------------------------------------------------------------------

/-- A level of nesting while it is read: its finished branches and the parts of the current
branch, both last first; whether its text is verbose; and how its group was opened.
-/
structure Level where
  branches : List Node
  parts : List Node
  verbose : Bool
  changes : FlagChanges
  capturing : Bool

namespace Level

/-- A level on which nothing has been read. -/
def opened (verbose : Bool) (changes : FlagChanges) (capturing : Bool) : Level :=
  ⟨[], [], verbose, changes, capturing⟩

/-- Adds a part to the current branch. -/
def push (level : Level) (part : Node) : Level :=
  { level with parts := part :: level.parts }

/-- Ends the current branch. -/
def alternate (level : Level) : Level :=
  { level with branches := .ofParts level.parts.reverse :: level.branches, parts := [] }

/-- Everything read on the level. -/
def body (level : Level) : Node :=
  let last := Node.ofParts level.parts.reverse
  if level.branches.isEmpty then last
  else .alternation (last :: level.branches).reverse

/-- Repeats the last part; a change of flags is no part that can be repeated. -/
def repeatLast (level : Level) (least : Nat) (most : Option Nat) (greedy : Bool)
    : Fallible Level :=
  match level.parts with
  | [] | .empty :: _ | .flags _ :: _ => .error .nothingToRepeat
  | part :: parts =>
      .ok { level with parts := .repetition least most greedy part :: parts }

/-- The last part can be repeated. -/
def repeatable (level : Level) : Bool :=
  match level.parts with
  | [] | .empty :: _ | .flags _ :: _ => false
  | _ => true

end Level

/-- A pattern while it is read: the current level, the levels around it, innermost first, and
the group names in use.
-/
structure Reading where
  current : Level
  outer : List Level
  names : List (List Char)

/-- Opens a group on a new level. -/
def Reading.openGroup (reading : Reading) (changes : FlagChanges) (capturing : Bool)
    : Reading :=
  let verbose := (changes.state? .verbose).getD reading.current.verbose
  { reading with
    current := .opened verbose changes capturing
    outer := reading.current :: reading.outer }

----------------------------------------------------------------------------------------
-- Groups
----------------------------------------------------------------------------------------

/-- The text starts with one of the four look-around marks. -/
def isLookAround (text : List Char) : Bool :=
  ["?=", "?!", "?<=", "?<!"].any fun mark => mark.toList.isPrefixOf text

/-- Opens a named group after its opening mark. -/
def readNamedGroup (reading : Reading) (text : List Char)
    : Fallible (Reading × List Char) := do
  let (name, text) ← readName true text
  if name.isEmpty then .error .nameEmpty
  else if reading.names.contains name then .error .nameRepeated
  else
    let reading := { reading with names := name :: reading.names }
    return (reading.openGroup [] true, text)

/-- Reads what follows an opening parenthesis: a plain, named or flagged group, or flags for
the rest of the enclosing group.
-/
def readGroupStart (reading : Reading) (text : List Char)
    : Fallible (Reading × List Char) := do
  let text := skip reading.current.verbose text
  if isLookAround text then .error .lookAround
  else
    match text with
    | '?' :: 'P' :: '<' :: rest => readNamedGroup reading rest
    | '?' :: '<' :: rest => readNamedGroup reading rest
    | ['?'] => .error .groupUnclosed
    | '?' :: rest =>
        let (changes, rest) ← readFlags [] false false rest
        match rest with
        | ')' :: rest =>
            if changes.isEmpty then .error .nothingToRepeat
            else
              let level := reading.current.push (.flags changes)
              let verbose := (changes.state? .verbose).getD level.verbose
              return ({ reading with current := { level with verbose := verbose } }, rest)
        | rest => return (reading.openGroup changes false, rest.drop 1)
    | rest => return (reading.openGroup [] true, rest)

/-- Closes the current group and makes it a part of the level around it. -/
def Reading.closeGroup (reading : Reading) : Fallible Reading :=
  match reading.outer with
  | [] => .error .groupUnopened
  | parent :: outer =>
      let level := reading.current
      .ok { reading with
            current := parent.push (.group level.changes level.capturing level.body)
            outer := outer }

----------------------------------------------------------------------------------------
-- Repetitions
----------------------------------------------------------------------------------------

/-- Splits off the question mark that makes a repetition prefer few turns. -/
def readGreed : List Char → Bool × List Char
  | '?' :: text => (false, text)
  | text => (true, text)

/-- Reads a count after its opening brace and repeats the last part. -/
def Level.readCounted (level : Level) (text : List Char)
    : Fallible (Level × List Char) := do
  let verbose := level.verbose
  if !level.repeatable then .error .nothingToRepeat
  else
    match skip verbose text with
    | [] => .error .countUnclosed
    | text =>
        let (least, text) := readCount verbose text
        let close (least : Nat) (most : Option Nat) (text : List Char)
            : Fallible (Level × List Char) :=
          match text with
          | '}' :: text => do
              let (greedy, text) := readGreed (skip verbose text)
              if most.any (· < least) then .error .countOrder
              else
                let level ← level.repeatLast least most greedy
                .ok (level, text)
          | _ => .error .countUnclosed
        match text with
        | [] => .error .countUnclosed
        | ',' :: text =>
            match skip verbose text with
            | [] => .error .countUnclosed
            | '}' :: text => close (← least) none ('}' :: text)
            | text =>
                let least ← least
                let (most, text) := readCount verbose text
                close least (some (← most)) text
        | text =>
            let least ← least
            close least (some least) text

----------------------------------------------------------------------------------------
-- Patterns
----------------------------------------------------------------------------------------

/-- Reads a single item that is no operator. -/
def readItem (verbose : Bool) (c : Char) (text : List Char)
    : Fallible (Node × List Char) :=
  match c with
  | '[' => readBracket verbose text
  | '\\' => readEscape verbose text
  | '.' => .ok (.dot, text)
  | '^' => .ok (.assertion .lineStart, text)
  | '$' => .ok (.assertion .lineEnd, text)
  | _ => .ok (.character c, text)

/-- Reads one operator or item. -/
def Reading.step (reading : Reading) (c : Char) (text : List Char)
    : Fallible (Reading × List Char) :=
  let level := reading.current
  let repeated (least : Nat) (most : Option Nat) : Fallible (Reading × List Char) := do
    let (greedy, text) := readGreed text
    let level ← level.repeatLast least most greedy
    return ({ reading with current := level }, text)
  match c with
  | '(' => readGroupStart reading text
  | ')' => do return (← reading.closeGroup, text)
  | '|' => .ok ({ reading with current := level.alternate }, text)
  | '?' => repeated 0 (some 1)
  | '*' => repeated 0 none
  | '+' => repeated 1 none
  | '{' => do
      let (level, text) ← level.readCounted text
      return ({ reading with current := level }, text)
  | _ => do
      let (item, text) ← readItem level.verbose c text
      return ({ reading with current := level.push item }, text)

/-- Reads to the end of the text. Each turn takes a character, so that the length of the text
bounds the turns.
-/
def Reading.finish : Nat → Reading → List Char → Fallible Node
  | 0, _, _ => .error .groupUnclosed
  | turns + 1, reading, text =>
      match skip reading.current.verbose text with
      | [] =>
          if reading.outer.isEmpty then .ok reading.current.body
          else .error .groupUnclosed
      | c :: text => do
          let (reading, text) ← reading.step c text
          Reading.finish turns reading text

/-- Reads a pattern; its nesting depth is checked when all of it is known. -/
def read (text : List Char) : Fallible Node := do
  let node ← Reading.finish (text.length + 1) ⟨.opened false [] false, [], []⟩ text
  if node.depth ≤ PatternFault.nestingLimit then return node
  else .error .nestingTooDeep

end LineEditor.Pattern
