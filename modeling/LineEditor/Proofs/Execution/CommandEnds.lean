import LineEditor.Execution.Plan
import LineEditor.Proofs.Execution.Walks
import LineEditor.Proofs.Files.Drafts

/-! The ends that a command can come to. A command that fails leaves the buffer and the world as
they were; one that goes well edits the buffer, takes typed text, loads or saves lines, or quits.
-/

namespace LineEditor

/-- The operation reads a file or writes one. -/
def Operation.usesFiles : Operation → Bool
  | .read _ | .write _ => true
  | _ => false

/-- What carrying out a command on a buffer in a world can come to: a change, and the world after
it.
-/
inductive Command.Ends (command : Command) (buffer : Buffer) (world : World)
    : Change → World → Prop
  | failed (error : EditError) : command.Ends buffer world (buffer.refuse error) world
  | edited {after output} (noFile : command.operation.usesFiles = false)
    (edited : buffer.Edited after)
    : command.Ends buffer world { buffer := after, output := output } world
  | entered {mode} (input : command.operation = .input mode)
    : command.Ends buffer world
        { buffer := buffer.enterText command.range mode world.input.takeText.1 }
        { world with input := world.input.takeText.2 }
  | loaded {path text} (read : command.operation = .read path)
    (found : world.files.load path = .ok text)
    : command.Ends buffer world
        { buffer := (buffer.replaceAll text.lines).setFilename path } world
  | saved {path files count} (write : command.operation = .write path)
    (stored : world.files.save path buffer.lines = (.ok count, files))
    : command.Ends buffer world { buffer := (buffer.setFilename path).markClean }
        { world with files := files }
  | quit (quits : command.operation = .quit)
    : command.Ends buffer world { buffer := buffer, result := .ok .quit } world

----------------------------------------------------------------------------------------
-- Operations on the buffer
----------------------------------------------------------------------------------------

namespace Buffer

/-- The buffer stays as it is and an error is reported, or the change is an edit. -/
def Refuses (buffer : Buffer) (change : Change) : Prop :=
  ∃ error, change = buffer.refuse error

/-- The change is a successful edit. -/
def Edits (buffer : Buffer) (change : Change) : Prop :=
  ∃ after output, change = { buffer := after, output := output } ∧ buffer.Edited after

/-- A walk that is brought to its end is a successful edit. -/
theorem edits_walk (buffer : Buffer) (run : Nat → String → LineResult) (range : LineRange)
    : buffer.Edits (Walk.along run buffer range).change :=
  ⟨_, _, rfl, Walk.along_finish_edited run buffer range⟩

/-- A command on single lines refuses or edits. A substitution that gives up its walk has done
nothing on it, so that the walk's buffer and output are those it started with.
-/
theorem runEach_refuses_or_edits (buffer : Buffer) (range : LineRange) (command : LineCommand)
    : buffer.Refuses (buffer.runEach range command)
      ∨ buffer.Edits (buffer.runEach range command) := by
  unfold runEach
  split
  · exact Or.inl ⟨_, rfl⟩
  · cases command with
    | print | number | delete => exact Or.inr (buffer.edits_walk _ range)
    | substitute substitution =>
        dsimp only
        split
        next none =>
          left
          rw [Walk.along_eq_of_replaced_eq_zero (Walk.onlyReplaces_substitute substitution) none]
          exact ⟨.noMatch, rfl⟩
        next => exact Or.inr (buffer.edits_walk _ range)

/-- A global command refuses or edits. -/
theorem runGlobal_refuses_or_edits (buffer : Buffer) (range : LineRange)
    (global : GlobalCommand)
    : buffer.Refuses (buffer.runGlobal range global)
      ∨ buffer.Edits (buffer.runGlobal range global) := by
  unfold runGlobal
  split
  · exact Or.inl ⟨_, rfl⟩
  · exact Or.inr (buffer.edits_walk _ range)

/-- A move refuses or edits: it deletes, inserts and sets the current line. -/
theorem moveLines_refuses_or_edits (buffer : Buffer) (range : LineRange) (destination : Int)
    : buffer.Refuses (buffer.moveLines range destination)
      ∨ buffer.Edits (buffer.moveLines range destination) := by
  unfold moveLines
  split
  · exact Or.inl ⟨_, rfl⟩
  · dsimp only
    split
    · exact Or.inl ⟨_, rfl⟩
    · exact Or.inr ⟨_, _, rfl, Edited.refl.delete.insert.setDot⟩

/-- Entering text is an edit in every mode, with text and without. -/
theorem enterText_edited (buffer : Buffer) (range : LineRange) (mode : InputMode)
    (lines : List String)
    : buffer.Edited (buffer.enterText range mode lines) := by
  have inserted : ∀ index, buffer.Edited (buffer.insert index lines) := fun _ => Edited.refl.insert
  unfold enterText
  cases mode with
  | insert | append =>
      dsimp only
      split
      · exact (inserted _).setDot
      · exact inserted _
  | change =>
      dsimp only
      split
      · exact Edited.refl.delete.insert.setDot
      · exact Edited.refl.delete.insert.setDot

end Buffer

----------------------------------------------------------------------------------------
-- Commands
----------------------------------------------------------------------------------------

/-- What refuses or edits is one of the ends of a command without a file. -/
theorem Command.Ends.of_refuses_or_edits {command : Command} {buffer : Buffer} {change : Change}
    (world : World) (noFile : command.operation.usesFiles = false)
    (h : buffer.Refuses change ∨ buffer.Edits change)
    : command.Ends buffer world change world := by
  rcases h with ⟨error, rfl⟩ | ⟨after, output, rfl, edited⟩
  · exact .failed error
  · exact .edited noFile edited

/-- A command that ends with an error has refused the buffer and left the world. -/
theorem Command.Ends.eq_of_error {command : Command} {buffer : Buffer} {world after : World}
    {change : Change} {error : EditError} (ends : command.Ends buffer world change after)
    (failed : change.result = .error error)
    : change = buffer.refuse error ∧ after = world := by
  cases ends with
  | failed refused =>
      cases failed
      exact ⟨rfl, rfl⟩
  | edited | entered | loaded | saved | quit => cases failed

/-- A command without a file edits the buffer at most, whatever it ends with. -/
theorem Command.Ends.buffer_edited {command : Command} {buffer : Buffer} {world after : World}
    {change : Change} (ends : command.Ends buffer world change after)
    (noFile : command.operation.usesFiles = false)
    : buffer.Edited change.buffer := by
  cases ends with
  | failed | quit => exact .refl
  | edited _ edited => exact edited
  | entered => exact buffer.enterText_edited _ _ _
  | loaded read | saved read => simp [read, Operation.usesFiles] at noFile

/-- Every command leaves the current line valid. A file that was read brings its own current line,
and a file that was written keeps the one of the buffer.
-/
theorem Command.Ends.dotValid {command : Command} {buffer : Buffer} {world after : World}
    {change : Change} (ends : command.Ends buffer world change after) (valid : buffer.DotValid)
    : change.buffer.DotValid := by
  cases ends with
  | failed | quit | saved => exact valid
  | edited _ edited => exact edited.dotValid valid
  | entered => exact (buffer.enterText_edited _ _ _).dotValid valid
  | @loaded _ text => exact buffer.dotValid_replaceAll text.lines

/-- Every command comes to one of the ends, by cases on its operation. -/
theorem Command.ends (command : Command) (buffer : Buffer) (world : World)
    : command.Ends buffer world ((command.plan buffer).run world).1
        ((command.plan buffer).run world).2 := by
  cases h : command.operation with
  | each inner =>
      simp only [plan, h, Plan.run]
      exact .of_refuses_or_edits world (by rw [h]; rfl) (buffer.runEach_refuses_or_edits _ inner)
  | global inner =>
      simp only [plan, h, Plan.run]
      exact .of_refuses_or_edits world (by rw [h]; rfl)
        (buffer.runGlobal_refuses_or_edits _ inner)
  | move destination =>
      simp only [plan, h, Plan.run]
      exact .of_refuses_or_edits world (by rw [h]; rfl)
        (buffer.moveLines_refuses_or_edits _ destination)
  | input mode =>
      simp only [plan, h]
      split
      · exact .failed _
      · exact .entered h
  | read path =>
      simp only [plan, h, Plan.run]
      cases found : world.files.load path with
      | error error => exact .failed _
      | ok text => exact .loaded h found
  | write path =>
      simp only [plan, h, Plan.run]
      cases stored : world.files.save path buffer.lines with
      | mk result files =>
          cases result with
          | ok count => exact .saved h stored
          | error error =>
              have same : files = world.files := by
                have kept := FileTree.save_of_error (congrArg Prod.fst stored)
                rwa [stored] at kept
              rw [same]
              exact .failed _
  | quit =>
      simp only [plan, h, Plan.run]
      exact .quit h

end LineEditor
