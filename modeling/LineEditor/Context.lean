import LineEditor.Buffer
import LineEditor.Error
import LineEditor.Pattern.Basic

/-! What commands are read against.
The context holds the buffer, the rule for patterns and the memory of earlier commands.
-/

namespace LineEditor

/-- What commands remember: the last pattern, and the last replacement with its options. -/
structure Memory where
  search : Option Pattern := none
  replacement : Option String := none
  options : Option String := none
  deriving DecidableEq, Repr

/-- The state of editing. `ignoreCase` applies to every pattern that is compiled. -/
structure Context where
  buffer : Buffer := {}
  ignoreCase : Bool := false
  memory : Memory := {}
  deriving DecidableEq, Repr

/-- An answer together with the memory that finding it leaves, also where it is an error. -/
abbrev Recalled (α : Type) := Except EditError α × Memory

namespace Memory

/-- Remembers a pattern. -/
def keepSearch (memory : Memory) (pattern : Pattern) : Memory :=
  { memory with search := some pattern }

/-- Remembers a substitution: its pattern, its replacement and its options as written. -/
def keepSubstitution (memory : Memory) (pattern : Pattern) (replacement options : String)
    : Memory :=
  { memory with
    search := some pattern, replacement := some replacement, options := some options }

end Memory

namespace Context

/-- The pattern that a written body means: the last one if the body is empty. -/
def pattern (context : Context) (body : List Char) : Except EditError Pattern :=
  if body.isEmpty then
    match context.memory.search with
    | some pattern => .ok pattern
    | none => .error .noPriorPattern
  else
    match Pattern.compile context.ignoreCase (String.ofList body) with
    | .ok pattern => .ok pattern
    | .error fault => .error (.badPattern fault)

/-- The pattern that a written body means, which becomes the last one. -/
def recallPattern (context : Context) (body : List Char) : Recalled Pattern :=
  match context.pattern body with
  | .ok pattern => (.ok pattern, context.memory.keepSearch pattern)
  | .error error => (.error error, context.memory)

/-- The context with another memory. -/
def withMemory (context : Context) (memory : Memory) : Context :=
  { context with memory := memory }

end Context

end LineEditor
