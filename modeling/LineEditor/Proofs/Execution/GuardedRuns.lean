import LineEditor.Proofs.Command.CheckedRanges
import LineEditor.Proofs.Execution.CommandEnds

/-! Guarded runs: commands carried out step by step with primitives that break off where they are
asked for a line, a range or a number that does not exist.
-/

namespace LineEditor

----------------------------------------------------------------------------------------
-- Guarded primitives
----------------------------------------------------------------------------------------

/-- What a primitive breaks off at. -/
inductive Breach where
  | noLine (index : Nat)
  | noRange (range : LineRange)
  | noPlace (index : Nat)
  /-- A difference of two numbers that would be below zero. -/
  | noDifference (left right : Nat)
  /-- A negative number in the place of an index. -/
  | noIndex (value : Int)
  /-- An operation that acts on whole ranges, met where lines are visited one by one. -/
  | notPerLine (operation : Operation)

/-- A value, or the place at which finding it broke off. -/
abbrev Guarded (α : Type) := Except Breach α

/-- The difference of two numbers. -/
def guardedSub (left right : Nat) : Guarded Nat :=
  if right ≤ left then .ok (left - right) else .error (.noDifference left right)

/-- A number as an index. -/
def guardedIndex (value : Int) : Guarded Nat :=
  if 0 ≤ value then .ok value.toNat else .error (.noIndex value)

/-- The indices of a range. -/
def LineRange.guardedIndices (range : LineRange) : Guarded (List Nat) := do
  return List.range' range.first ((← guardedSub range.last range.first) + 1)

namespace Buffer

/-- The line at an index. -/
def guardedLine (buffer : Buffer) (index : Nat) : Guarded String :=
  match buffer.lines[index]? with
  | some line => .ok line
  | none => .error (.noLine index)

/-- Puts a text in the place of a line. -/
def guardedSetLine (buffer : Buffer) (index : Nat) (text : String) : Guarded Buffer :=
  if index < buffer.size then .ok (buffer.setLine index text) else .error (.noLine index)

/-- Removes the lines of a range. -/
def guardedDelete (buffer : Buffer) (range : LineRange) : Guarded Buffer :=
  if range.first ≤ range.last ∧ range.last < buffer.size then .ok (buffer.delete range)
  else .error (.noRange range)

/-- Inserts lines before the line at an index or behind the last line. -/
def guardedInsert (buffer : Buffer) (index : Nat) (lines : List String) : Guarded Buffer :=
  if index ≤ buffer.size then .ok (buffer.insert index lines) else .error (.noPlace index)

end Buffer

----------------------------------------------------------------------------------------
-- Guarded runs
----------------------------------------------------------------------------------------

/-- What an operation does to a single line. -/
def Operation.guardedLineRun : Operation → Guarded (Nat → String → LineResult)
  | .each command => .ok command.run
  | .global command => .ok command.run
  | operation => .error (.notPerLine operation)

namespace Walk

/-- Visits the line at an index. -/
def guardedStep (run : Nat → String → LineResult) (walk : Walk) (index : Nat)
    : Guarded Walk := do
  let result := run index (← walk.buffer.guardedLine index)
  let walk := { walk with output := walk.output ++ result.printed }
  match result.effect with
  | .untouched => return walk
  | .kept => return { walk with visited := some index }
  | .replaced text =>
      return { walk with
        buffer := ← walk.buffer.guardedSetLine index text
        visited := some index
        replaced := walk.replaced + 1 }
  | .deleted => return { walk with visited := some index, deleted := index :: walk.deleted }

/-- Visits the lines of a range in order. -/
def guardedAlong (run : Nat → String → LineResult) (buffer : Buffer) (range : LineRange)
    : Guarded Walk := do
  (← range.guardedIndices).foldlM (guardedStep run) { buffer := buffer }

/-- Deletes what is marked, and makes the last visited line current. -/
def guardedFinish (walk : Walk) : Guarded Buffer := do
  let buffer ←
    walk.deleted.foldlM (fun buffer index => buffer.guardedDelete (.single index)) walk.buffer
  match walk.visited with
  | none => return buffer
  | some index =>
      let above := (walk.deleted.filter fun deleted => deleted < index).length
      return buffer.setDot (← guardedSub index above)

/-- The end of a walk that went well. -/
def guardedChange (walk : Walk) : Guarded Change := do
  return { buffer := ← walk.guardedFinish, output := walk.output }

end Walk

namespace Buffer

/-- Runs an operation that acts on each line by itself. -/
def guardedRunLines (buffer : Buffer) (range : LineRange) (operation : Operation)
    : Guarded Change := do
  if buffer.isEmpty then return buffer.refuse .badRange
  else
    let walk ← Walk.guardedAlong (← operation.guardedLineRun) buffer range
    match operation with
    | .each (.substitute _) =>
        if walk.replaced = 0 then
          return { buffer := walk.buffer, output := walk.output, result := .error .noMatch }
        else walk.guardedChange
    | _ => walk.guardedChange

/-- Puts typed text at an index, and makes its last line current. -/
def guardedPlaceText (buffer : Buffer) (index : Nat) (mode : InputMode) (lines : List String)
    : Guarded Buffer := do
  let buffer ← buffer.guardedInsert index lines
  if !lines.isEmpty then return buffer.setDot (← guardedSub (index + lines.length) 1)
  else if mode = .change then return buffer.setDot index
  else return buffer

/-- Puts typed text in its place. -/
def guardedEnterText (buffer : Buffer) (range : LineRange) (mode : InputMode)
    (lines : List String) : Guarded Buffer := do
  match mode with
  | .change => (← buffer.guardedDelete range).guardedPlaceText range.first mode lines
  | .insert => buffer.guardedPlaceText range.first mode lines
  | .append =>
      buffer.guardedPlaceText (if buffer.isEmpty then 0 else range.last + 1) mode lines

/-- Moves the lines of a range behind a destination. -/
def guardedMoveLines (buffer : Buffer) (range : LineRange) (destination : Int)
    : Guarded Change := do
  let inside := (range.first : Int) ≤ destination && destination ≤ range.last
  if buffer.isEmpty then return buffer.refuse .badRange
  else if destination < -1 || destination > buffer.lastIndex || inside then
    return buffer.refuse .badMoveTarget
  else
    let moved := buffer.slice range
    let rest ← buffer.guardedDelete range
    let behind := if destination > range.last then destination - moved.length else destination
    let index ← guardedIndex (behind + 1)
    let joined ← rest.guardedInsert index moved
    return { buffer := joined.setDot (← guardedSub (index + moved.length) 1) }

end Buffer

/-- Carries out a command on a buffer in a world. Reading a file, writing one and quitting use no
index.
-/
def Command.guardedRun (command : Command) (buffer : Buffer) (world : World)
    : Guarded (Change × World) := do
  match command.operation with
  | .each _ | .global _ =>
      return (← buffer.guardedRunLines command.range command.operation, world)
  | .input mode =>
      if mode = .change && buffer.isEmpty then return (buffer.refuse .badRange, world)
      else
        let (lines, input) := world.input.takeText
        return ({ buffer := ← buffer.guardedEnterText command.range mode lines },
          { world with input := input })
  | .move destination =>
      return (← buffer.guardedMoveLines command.range destination, world)
  | .read _ | .write _ | .quit => return (command.plan buffer).run world

----------------------------------------------------------------------------------------
-- Primitives that do not break off
----------------------------------------------------------------------------------------

theorem guardedSub_of_le {left right : Nat} (le : right ≤ left)
    : guardedSub left right = .ok (left - right) :=
  if_pos le

theorem guardedIndex_of_le {value : Int} (le : 0 ≤ value)
    : guardedIndex value = .ok value.toNat :=
  if_pos le

theorem LineRange.guardedIndices_of_ordered {range : LineRange}
    (ordered : range.first ≤ range.last)
    : range.guardedIndices = .ok range.indices := by
  simp only [guardedIndices, guardedSub_of_le ordered]
  rfl

/-- The indices of a range lie below every bound that the last of them lies below. -/
theorem LineRange.lt_of_mem_indices {range : LineRange} {bound index : Nat}
    (ordered : range.first ≤ range.last) (inside : range.last < bound)
    (member : index ∈ range.indices)
    : index < bound := by
  simp only [indices, size, List.mem_range'_1] at member
  omega

namespace Buffer

variable {buffer : Buffer} {index : Nat} {range : LineRange}

theorem guardedLine_of_lt (inside : index < buffer.size)
    : buffer.guardedLine index = .ok (buffer.line index) := by
  have found : buffer.lines[index]? = some (buffer.lines.get ⟨index, inside⟩) :=
    List.getElem?_eq_getElem inside
  simp only [guardedLine, line, found, List.getD_eq_getElem?_getD, Option.getD_some]

theorem guardedSetLine_of_lt (text : String) (inside : index < buffer.size)
    : buffer.guardedSetLine index text = .ok (buffer.setLine index text) :=
  if_pos inside

theorem guardedDelete_of_lt (ordered : range.first ≤ range.last)
    (inside : range.last < buffer.size)
    : buffer.guardedDelete range = .ok (buffer.delete range) :=
  if_pos ⟨ordered, inside⟩

theorem guardedInsert_of_le (lines : List String) (inside : index ≤ buffer.size)
    : buffer.guardedInsert index lines = .ok (buffer.insert index lines) :=
  if_pos inside

end Buffer

end LineEditor
