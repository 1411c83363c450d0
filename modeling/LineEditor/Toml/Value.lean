/-! Values of configuration documents, and how dotted keys and headers add to tables. -/

namespace LineEditor.Toml

/-- How a table came about, which decides what may still be added to it. -/
inductive Origin where
  /-- Written in braces: it is complete. -/
  | inline
  /-- Opened by a header of its own. -/
  | header
  /-- Implied by the header of a table inside it. -/
  | implied
  /-- Implied by a dotted key. -/
  | dotted
  deriving DecidableEq, Repr

/-- A value. Numbers and dates are checked when they are read but not kept, because nothing
is configured by one.
-/
inductive Value where
  | text (content : String)
  | boolean (value : Bool)
  | number
  | date
  | array (items : List Value)
  | table (origin : Origin) (entries : List (String × Value))
  /-- Tables that headers in double brackets add one by one. -/
  | tables (elements : List (List (String × Value)))
  deriving Repr

namespace Value

/-- The text of a string. -/
def asText : Value → Option String
  | .text content => some content
  | _ => none

/-- The value of a boolean. -/
def asBoolean : Value → Option Bool
  | .boolean value => some value
  | _ => none

/-- A value that members can be looked up in. A table has them by name and an array by place,
and a date has none of those that are asked for.
-/
def isRecord : Value → Bool
  | .table .. | .array .. | .tables .. | .date => true
  | _ => false

/-- The member of a record with a name and a place. -/
def member (place : Nat) (name : String) : Value → Option Value
  | .table _ entries => entries.lookup name
  | .array items => items[place]?
  | .tables elements => elements[place]?.map (.table .header)
  | _ => none

end Value

/-- The entries of a table, each key at most once. -/
abbrev Entries := List (String × Value)

/-- A key as written: the names in front of its dots, and the last name. -/
structure Key where
  path : List String
  name : String
  deriving DecidableEq, Repr

namespace Entries

/-- Adds an entry under a key that is not there yet. -/
def add (entries : Entries) (key : String) (value : Value) : Entries :=
  entries ++ [(key, value)]

/-- Puts another value in the place of one that is there. -/
def replace (entries : Entries) (key : String) (value : Value) : Entries :=
  entries.map fun (known, old) => if known = key then (known, value) else (known, old)

/-- Adds a value under a name, behind the names of a dotted key. On the way a dotted key makes
the tables that are missing, and passes tables that dotted keys or longer headers imply; it
ends in a table that takes keys, where the name has to be new.
-/
def define (name : String) (value : Value) : List String → Bool → Entries → Option Entries
  | [], takes, entries =>
      if takes && (entries.lookup name).isNone then some (entries.add name value) else none
  | key :: path, _, entries =>
      match entries.lookup key with
      | none => do
          let inner ← define name value path true []
          return entries.add key (.table .dotted inner)
      | some (.table .dotted inner) => do
          let inner ← define name value path true inner
          return entries.replace key (.table .dotted inner)
      | some (.table .implied inner) => do
          let inner ← define name value path false inner
          return entries.replace key (.table .implied inner)
      | some (.tables elements) => do
          let inner ← define name value path false (← elements.getLast?)
          return entries.replace key (.tables (elements.dropLast ++ [inner]))
      | some _ => none

/-- Adds a value under a key to a table that takes keys. -/
def assign (entries : Entries) (key : Key) (value : Value) : Option Entries :=
  define key.name value key.path true entries

/-- Changes the table that a path of header names leads to. Missing tables on the way are
implied, and an array of tables is entered at its last element.
-/
def reach (change : Entries → Option Entries) : List String → Entries → Option Entries
  | [], entries => change entries
  | key :: path, entries =>
      match entries.lookup key with
      | none => do
          let inner ← reach change path []
          return entries.add key (.table .implied inner)
      | some (.table .inline _) => none
      | some (.table origin inner) => do
          let inner ← reach change path inner
          return entries.replace key (.table origin inner)
      | some (.tables elements) => do
          let inner ← reach change path (← elements.getLast?)
          return entries.replace key (.tables (elements.dropLast ++ [inner]))
      | some _ => none

/-- Opens the table of a header in single brackets: a new one, or one that was only implied by
longer headers.
-/
def openTable (name : String) (entries : Entries) : Option Entries :=
  match entries.lookup name with
  | none => some (entries.add name (.table .header []))
  | some (.table .implied inner) => some (entries.replace name (.table .header inner))
  | some _ => none

/-- Adds the table of a header in double brackets. -/
def openElement (name : String) (entries : Entries) : Option Entries :=
  match entries.lookup name with
  | none => some (entries.add name (.tables [[]]))
  | some (.tables elements) => some (entries.replace name (.tables (elements ++ [[]])))
  | some _ => none

end Entries

end LineEditor.Toml
