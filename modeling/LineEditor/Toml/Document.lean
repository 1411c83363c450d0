import LineEditor.Toml.Date
import LineEditor.Toml.Number
import LineEditor.Toml.Text
import LineEditor.Toml.Value

/-! Configuration documents: statements line by line, and the table that they describe. -/

namespace LineEditor.Toml

/-- A step of reading: what was read and the text after it. -/
abbrev Reader (α : Type) := List Char → Option (α × List Char)

/-- Drops blanks inside a line. -/
def dropSpaces (text : List Char) : List Char := text.dropWhile isSpace

----------------------------------------------------------------------------------------
-- Keys
----------------------------------------------------------------------------------------

/-- A character of a key without quotes. -/
def isKeyChar (c : Char) : Bool := c.isAlphanum || c = '_' || c = '-'

/-- Reads one name of a key. -/
def readName (text : List Char) : Option (String × List Char) :=
  let (bare, rest) := text.span isKeyChar
  if bare.isEmpty then (readLine text).map fun (name, rest) => (String.ofList name, rest)
  else some (String.ofList bare, rest)

/-- Reads a key of at most so many names, with blanks around each of them. -/
def readNames : Nat → Reader Key
  | 0, _ => none
  | names + 1, text => do
      let (name, rest) ← readName (dropSpaces text)
      match dropSpaces rest with
      | '.' :: rest => do
          let (key, rest) ← readNames names rest
          return ({ key with path := name :: key.path }, rest)
      | rest => return (⟨[], name⟩, rest)

/-- The most levels of brackets, and the most names of one key. -/
def nestingLimit : Nat := 79

/-- Reads a key. -/
def readKey : Reader Key := readNames nestingLimit

----------------------------------------------------------------------------------------
-- Values
----------------------------------------------------------------------------------------

/-- Reads a value without brackets. -/
def readScalar (text : List Char) : Option (Value × List Char) :=
  let found (value : Value) (rest : Option (List Char)) : Option (Value × List Char) :=
    rest.map fun rest => (value, rest)
  (readText text).map (fun (content, rest) => (.text (String.ofList content), rest))
    <|> found (.boolean true) (readWord "true" text)
    <|> found (.boolean false) (readWord "false" text)
    <|> found .date (readDate text)
    <|> found .number (readFraction text)
    <|> found .number (readWhole text)

/-- Drops blanks, line ends and comments, when a comment may be under way. -/
def dropFiller (inComment : Bool) : List Char → List Char
  | [] => []
  | c :: rest =>
      if c = '\n' then dropFiller false rest
      else if c = '\r' && rest.head? = some '\n' then dropFiller false rest
      else if inComment then if isPlain c then dropFiller true rest else c :: rest
      else if isSpace c then dropFiller false rest
      else if c = '#' then dropFiller true rest
      else c :: rest

/-- Reads the items of an array after its bracket; a comma may follow the last one. -/
def readItems (item : Reader Value) : Nat → Reader (List Value)
  | 0, _ => none
  | turns + 1, text =>
      match dropFiller false text with
      | ']' :: rest => some ([], rest)
      | text => do
          let (value, rest) ← item text
          match dropFiller false rest with
          | ',' :: rest => do
              let (values, rest) ← readItems item turns rest
              return (value :: values, rest)
          | ']' :: rest => return ([value], rest)
          | _ => none

/-- Reads a key, its equals sign and its value. -/
def readPair (item : Reader Value) (text : List Char)
    : Option ((Key × Value) × List Char) := do
  let (key, rest) ← readKey text
  match rest with
  | '=' :: rest => do
      let (value, rest) ← item (dropSpaces rest)
      return ((key, value), rest)
  | _ => none

/-- Reads the pairs of a table in braces, of which there is at least one. -/
def readPairs (item : Reader Value) : Nat → Reader (List (Key × Value))
  | 0, _ => none
  | turns + 1, text => do
      let (pair, rest) ← readPair item text
      match dropSpaces rest with
      | ',' :: rest => do
          let (pairs, rest) ← readPairs item turns rest
          return (pair :: pairs, rest)
      | '}' :: rest => return ([pair], rest)
      | _ => none

/-- Reads a table in braces after the first of them. -/
def readInline (item : Reader Value) (text : List Char)
    : Option (Value × List Char) :=
  match dropSpaces text with
  | '}' :: rest => some (.table .inline [], rest)
  | _ => do
      let (pairs, rest) ← readPairs item (text.length + 1) text
      let entries ← pairs.foldlM (fun entries (key, value) => Entries.assign entries key value) []
      return (.table .inline entries, rest)

/-- Reads a value with at most so many levels of brackets. -/
def readNested : Nat → Reader Value
  | 0, text => readScalar text
  | levels + 1, text =>
      match text with
      | '[' :: rest => do
          let (items, rest) ← readItems (readNested levels) (rest.length + 1) rest
          return (.array items, rest)
      | '{' :: rest => readInline (readNested levels) rest
      | _ => readScalar text

/-- Reads a value. -/
def readValue : Reader Value := readNested nestingLimit

----------------------------------------------------------------------------------------
-- Statements
----------------------------------------------------------------------------------------

/-- What a line states: that the following keys belong to a table, which is a new element of an
array for double brackets, or that a key has a value.
-/
inductive Statement where
  | header (key : Key)
  | element (key : Key)
  | pair (key : Key) (value : Value)
  deriving Repr

/-- Reads the rest of a line that states nothing more: blanks, a comment, the line end. -/
def finishLine (text : List Char) : Option (List Char) :=
  let rest :=
    match dropSpaces text with
    | '#' :: rest => rest.dropWhile isPlain
    | rest => rest
  if rest.isEmpty then some [] else lineEnd? rest

/-- Reads a statement. -/
def readStatement (text : List Char) : Option (Statement × List Char) :=
  match text with
  | '[' :: '[' :: rest => do
      let (key, rest) ← readKey rest
      return (.element key, ← readWord "]]" rest)
  | '[' :: rest => do
      let (key, rest) ← readKey rest
      return (.header key, ← readWord "]" rest)
  | _ => do
      let ((key, value), rest) ← readPair readValue text
      return (.pair key value, rest)

/-- Reads lines to the end, at most so many. -/
def readStatements : Nat → List Char → Option (List Statement)
  | 0, _ => none
  | lines + 1, text =>
      if text.isEmpty then some []
      else
        match finishLine text with
        | some rest => readStatements lines rest
        | none => do
            let (statement, rest) ← readStatement (dropSpaces text)
            let statements ← readStatements lines (← finishLine rest)
            return statement :: statements

----------------------------------------------------------------------------------------
-- Documents
----------------------------------------------------------------------------------------

/-- The table described so far, and the path of the header that keys now belong to. -/
structure Draft where
  entries : Entries := []
  place : List String := []

/-- Takes in one statement. -/
def Draft.add (draft : Draft) : Statement → Option Draft
  | .header key => do
      let entries ← draft.entries.reach (Entries.openTable key.name) key.path
      return ⟨entries, key.path ++ [key.name]⟩
  | .element key => do
      let entries ← draft.entries.reach (Entries.openElement key.name) key.path
      return ⟨entries, key.path ++ [key.name]⟩
  | .pair key value => do
      let entries ← draft.entries.reach (fun entries => entries.assign key value) draft.place
      return { draft with entries := entries }

/-- Reads the table that a document describes. A byte order mark in front is passed over. -/
def readDocument (text : String) : Option Entries := do
  let characters :=
    match text.toList with
    | '\uFEFF' :: rest => rest
    | characters => characters
  let statements ← readStatements (characters.length + 1) characters
  let draft ← statements.foldlM Draft.add {}
  return draft.entries

end LineEditor.Toml
