import LineEditor.Command.Operation

/-! Commands that act on each line by itself: what becomes of a line, and the walk over a range. -/

namespace LineEditor

/-- What becomes of a line; only a visited line can become the current one. -/
inductive LineEffect where
  | untouched
  | kept
  | replaced (text : String)
  | deleted
  deriving DecidableEq, Repr

/-- The effect of a command on a line, and what it prints. -/
structure LineResult where
  effect : LineEffect
  printed : String := ""
  deriving DecidableEq, Repr

/-- Runs a command on the line at an index. -/
def LineCommand.run (command : LineCommand) (index : Nat) (line : String) : LineResult :=
  match command with
  | .print => ⟨.kept, line ++ "\n"⟩
  | .number => ⟨.kept, toString (index + 1) ++ "\t" ++ line ++ "\n"⟩
  | .delete => ⟨.deleted, ""⟩
  | .substitute substitution =>
      match substitution.apply line with
      | none => ⟨.untouched, ""⟩
      | some text => ⟨.replaced text, if substitution.options.print then text ++ "\n" else ""⟩

/-- Runs a global command on a line: its inner command if the line is selected. -/
def GlobalCommand.run (global : GlobalCommand) (index : Nat) (line : String) : LineResult :=
  if global.selects line then global.command.run index line else ⟨.untouched, ""⟩

/-- The state of a walk: the buffer with its lines replaced but none deleted, what was printed,
the lines to delete, last first, the last line visited and how many lines were replaced.
-/
structure Walk where
  buffer : Buffer
  output : String := ""
  deleted : List Nat := []
  visited : Option Nat := none
  replaced : Nat := 0
  deriving DecidableEq, Repr

namespace Walk

/-- Visits the line at an index. -/
def step (run : Nat → String → LineResult) (walk : Walk) (index : Nat) : Walk :=
  let result := run index (walk.buffer.line index)
  let walk := { walk with output := walk.output ++ result.printed }
  match result.effect with
  | .untouched => walk
  | .kept => { walk with visited := some index }
  | .replaced text =>
      { walk with
        buffer := walk.buffer.setLine index text
        visited := some index
        replaced := walk.replaced + 1 }
  | .deleted => { walk with visited := some index, deleted := index :: walk.deleted }

/-- Visits the lines of a range in order. -/
def along (run : Nat → String → LineResult) (buffer : Buffer) (range : LineRange) : Walk :=
  range.indices.foldl (step run) { buffer := buffer }

/-- Deletes what is marked, from the last line to the first so that no index shifts, and makes
the last visited line current, less the deleted lines above it.
-/
def finish (walk : Walk) : Buffer :=
  let buffer :=
    walk.deleted.foldl (fun buffer index => buffer.delete (.single index)) walk.buffer
  match walk.visited with
  | none => buffer
  | some index =>
      buffer.setDot (index - (walk.deleted.filter fun deleted => deleted < index).length)

end Walk

end LineEditor
