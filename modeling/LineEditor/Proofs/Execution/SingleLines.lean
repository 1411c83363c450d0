import LineEditor.Proofs.Command.SingleLines
import LineEditor.Proofs.Execution.CommandEnds
import LineEditor.Proofs.Files.SingleLines
import LineEditor.Proofs.Pattern.Cuts

/-! Commands keep the buffer to single lines. A command only puts in lines that are typed, that a
file holds or that a substitution makes, and each of these is a single line.
-/

namespace LineEditor

open Text (SingleLine)

----------------------------------------------------------------------------------------
-- Lines of a buffer
----------------------------------------------------------------------------------------

namespace Buffer

variable {holds : String → Prop} {buffer : Buffer} {index : Nat} {range : LineRange}
  {text : String} {lines : List String}

/-- All lines of the buffer have a property. -/
def Holds (holds : String → Prop) (buffer : Buffer) : Prop := ∀ line ∈ buffer.lines, holds line

theorem Holds.setLine (all : buffer.Holds holds) (put : holds text)
    : (buffer.setLine index text).Holds holds := by
  unfold Buffer.setLine
  split
  · exact all
  · intro line member
    rcases List.mem_or_eq_of_mem_set member with member | rfl
    · exact all line member
    · exact put

theorem Holds.insert (all : buffer.Holds holds) (put : ∀ line ∈ lines, holds line)
    : (buffer.insert index lines).Holds holds := by
  unfold Buffer.insert
  split
  · exact all
  · intro line member
    rcases List.mem_append.mp member with member | behind
    · rcases List.mem_append.mp member with front | inserted
      · exact all line (List.take_subset _ _ front)
      · exact put line inserted
    · exact all line (List.drop_subset _ _ behind)

theorem Holds.delete (all : buffer.Holds holds) : (buffer.delete range).Holds holds := by
  intro line member
  rcases List.mem_append.mp member with front | behind
  · exact all line (List.take_subset _ _ front)
  · exact all line (List.drop_subset _ _ behind)

theorem Holds.slice (all : buffer.Holds holds) : ∀ line ∈ buffer.slice range, holds line := by
  intro line member
  exact all line (List.drop_subset _ _ (List.take_subset _ _ member))

/-- The line at any index has the property, if the empty text has it, which stands for the lines
outside the buffer.
-/
theorem Holds.line (all : buffer.Holds holds) (empty : holds "") (index : Nat)
    : holds (buffer.line index) := by
  unfold Buffer.line
  rw [List.getD_eq_getElem?_getD]
  cases found : buffer.lines[index]? with
  | none => exact empty
  | some line => exact all line (List.mem_of_getElem? found)

theorem Holds.enterText (all : buffer.Holds holds) (put : ∀ line ∈ lines, holds line)
    (range : LineRange) (mode : InputMode)
    : (buffer.enterText range mode lines).Holds holds := by
  unfold Buffer.enterText
  cases mode with
  | insert | append =>
      dsimp only
      split
      · exact all.insert put
      · exact all.insert put
  | change =>
      dsimp only
      split
      · exact all.delete.insert put
      · exact all.delete.insert put

end Buffer

----------------------------------------------------------------------------------------
-- Walks
----------------------------------------------------------------------------------------

namespace Walk

variable {holds : String → Prop} {run : Nat → String → LineResult} {walk : Walk}
  {buffer : Buffer}

/-- What a line with the property is replaced by has it as well. -/
def Preserves (holds : String → Prop) (run : Nat → String → LineResult) : Prop :=
  ∀ index line text, holds line → (run index line).effect = .replaced text → holds text

theorem step_holds (preserves : Preserves holds run) (empty : holds "")
    (all : walk.buffer.Holds holds) (index : Nat)
    : (step run walk index).buffer.Holds holds := by
  have before := all.line empty index
  simp only [step]
  cases effect : (run index (walk.buffer.line index)).effect with
  | untouched | kept | deleted => exact all
  | replaced text => exact all.setLine (preserves index _ text before effect)

theorem foldl_step_holds (preserves : Preserves holds run) (empty : holds "")
    (all : walk.buffer.Holds holds) (indices : List Nat)
    : (indices.foldl (step run) walk).buffer.Holds holds := by
  induction indices generalizing walk with
  | nil => exact all
  | cons index indices ih => exact ih (step_holds preserves empty all index)

theorem foldl_delete_holds (all : buffer.Holds holds) (indices : List Nat)
    : (indices.foldl (fun buffer index => buffer.delete (.single index)) buffer).Holds holds := by
  induction indices generalizing buffer with
  | nil => exact all
  | cons index indices ih => exact ih all.delete

theorem finish_holds (all : walk.buffer.Holds holds) : walk.finish.Holds holds := by
  have deleted := foldl_delete_holds all walk.deleted
  unfold finish
  cases walk.visited with
  | none => exact deleted
  | some index => exact deleted

/-- A whole walk with its end keeps the property of the lines. -/
theorem along_finish_holds (preserves : Preserves holds run) (empty : holds "")
    (all : buffer.Holds holds) (range : LineRange)
    : (along run buffer range).finish.Holds holds :=
  finish_holds (foldl_step_holds preserves empty all range.indices)

end Walk

/-- A substitution with a replacement on a single line makes single lines of single lines. -/
theorem LineCommand.SingleLines.preserves {command : LineCommand} (single : command.SingleLines)
    : Walk.Preserves SingleLine command.run := by
  intro index line text before effect
  cases command with
  | print | number | delete => cases effect
  | substitute substitution =>
      simp only [LineCommand.run] at effect
      split at effect
      · cases effect
      · next result applied =>
          cases effect
          intro feed
          rcases List.mem_append.mp (Substitution.subset_of_apply applied feed) with old | new
          · exact before old
          · exact single new

theorem GlobalCommand.preserves {global : GlobalCommand} (single : global.command.SingleLines)
    : Walk.Preserves SingleLine global.run := by
  intro index line text before effect
  unfold GlobalCommand.run at effect
  split at effect
  · exact single.preserves index line text before effect
  · cases effect

----------------------------------------------------------------------------------------
-- Commands
----------------------------------------------------------------------------------------

/-- The change leaves single lines, and an error that it ends with names single lines. -/
structure Change.SingleLines (change : Change) : Prop where
  buffer : change.buffer.SingleLines
  result : Answers (fun _ => True) change.result

/-- The lines that can still be taken from the input are single lines. -/
def Input.SingleLines (input : Input) : Prop := ∀ line, some line ∈ input.pending → SingleLine line

/-- Taking text takes lines of the input and leaves others. -/
theorem Input.textFrom_subset (pending : List (Option String))
    : (∀ line ∈ (textFrom pending).1, some line ∈ pending) ∧ (textFrom pending).2 ⊆ pending := by
  fun_induction textFrom pending with
  | case1 => exact ⟨fun _ => nofun, List.Subset.refl _⟩
  | case2 pending => exact ⟨fun _ => nofun, List.subset_cons_self _ _⟩
  | case3 pending => exact ⟨fun _ => nofun, List.subset_cons_self _ _⟩
  | case4 first pending dot lines rest taken ih =>
      rw [taken] at ih
      obtain ⟨taken, left⟩ := ih
      refine ⟨?_, List.subset_cons_of_subset _ left⟩
      intro line member
      rcases List.mem_cons.mp member with rfl | member
      · exact List.mem_cons_self
      · exact List.mem_cons_of_mem _ (taken line member)

theorem Input.SingleLines.takeText {input : Input} (single : input.SingleLines)
    : (∀ line ∈ input.takeText.1, SingleLine line) ∧ input.takeText.2.SingleLines := by
  obtain ⟨taken, left⟩ := textFrom_subset input.pending
  refine ⟨fun line member => single line (taken line member), ?_⟩
  intro line member
  exact single line (left member)

namespace Buffer

variable {buffer : Buffer} {path : String} {lines : List String}

theorem SingleLines.refuse {error : EditError} (single : buffer.SingleLines)
    (named : error.SingleLines)
    : (buffer.refuse error).SingleLines :=
  ⟨single, named⟩

/-- Single lines in the place of the old ones are single lines, with the same name of the file. -/
theorem SingleLines.of_holds {after : Buffer} (single : buffer.SingleLines)
    (same : after.filename = buffer.filename) (all : after.Holds SingleLine)
    : after.SingleLines := by
  refine ⟨all, ?_⟩
  rw [same]
  exact single.filename

theorem SingleLines.walk {run : Nat → String → LineResult} (single : buffer.SingleLines)
    (preserves : Walk.Preserves SingleLine run) (range : LineRange)
    : (Walk.along run buffer range).change.SingleLines := by
  have all := Walk.along_finish_holds preserves (by decide) single.lines range
  refine ⟨single.of_holds ?_ all, trivial⟩
  exact (Walk.along_finish_edited run buffer range).filename

theorem SingleLines.runEach {command : LineCommand} (single : buffer.SingleLines)
    (put : command.SingleLines) (range : LineRange)
    : (buffer.runEach range command).SingleLines := by
  have walked := single.walk put.preserves range
  unfold Buffer.runEach
  split
  · exact single.refuse trivial
  · cases command with
    | print | number | delete => exact walked
    | substitute substitution =>
        dsimp only
        split
        next none =>
          rw [Walk.along_eq_of_replaced_eq_zero (Walk.onlyReplaces_substitute substitution) none]
          exact ⟨single, trivial⟩
        next => exact walked

theorem SingleLines.runGlobal {global : GlobalCommand} (single : buffer.SingleLines)
    (put : global.command.SingleLines) (range : LineRange)
    : (buffer.runGlobal range global).SingleLines := by
  unfold Buffer.runGlobal
  split
  · exact single.refuse trivial
  · exact single.walk (GlobalCommand.preserves put) range

theorem SingleLines.moveLines (single : buffer.SingleLines) (range : LineRange)
    (destination : Int)
    : (buffer.moveLines range destination).SingleLines := by
  have removed : (buffer.delete range).Holds SingleLine := Holds.delete single.lines
  unfold Buffer.moveLines
  split
  · exact single.refuse trivial
  · dsimp only
    split
    · exact single.refuse trivial
    · refine ⟨single.of_holds (by simp) ?_, trivial⟩
      exact removed.insert (Holds.slice single.lines)

theorem SingleLines.enterText (single : buffer.SingleLines)
    (put : ∀ line ∈ lines, SingleLine line) (range : LineRange) (mode : InputMode)
    : (buffer.enterText range mode lines).SingleLines := by
  refine single.of_holds ?_ (Holds.enterText single.lines put range mode)
  exact (buffer.enterText_edited range mode lines).filename

theorem singleLines_setFilename {filled : Buffer} (all : filled.Holds SingleLine)
    (single : SingleLine path)
    : (filled.setFilename path).SingleLines := by
  refine ⟨all, ?_⟩
  rintro name ⟨rfl⟩
  exact single

end Buffer

/-- Carrying out a command of single lines on single lines leaves single lines, whatever is typed
on single lines and whatever the files hold. If the names that the system gives to files are single
lines, so is what an error names, and they stay so.
-/
theorem Command.run_singleLines {command : Command} {buffer : Buffer} {world : World}
    (single : buffer.SingleLines) (put : command.operation.SingleLines)
    (typed : world.input.SingleLines)
    : ((command.plan buffer).run world).1.buffer.SingleLines
      ∧ ((command.plan buffer).run world).2.input.SingleLines
      ∧ (world.files.SingleLines
        → Answers (fun _ => True) ((command.plan buffer).run world).1.result
          ∧ ((command.plan buffer).run world).2.files.SingleLines) := by
  unfold plan
  cases operation : command.operation with
  | each inner =>
      rw [operation] at put
      have ran := single.runEach put command.range
      exact ⟨ran.buffer, typed, fun files => ⟨ran.result, files⟩⟩
  | global inner =>
      rw [operation] at put
      have ran := single.runGlobal put command.range
      exact ⟨ran.buffer, typed, fun files => ⟨ran.result, files⟩⟩
  | move destination =>
      have moved := single.moveLines command.range destination
      exact ⟨moved.buffer, typed, fun files => ⟨moved.result, files⟩⟩
  | quit => exact ⟨single, typed, fun files => ⟨trivial, files⟩⟩
  | input mode =>
      obtain ⟨text, left⟩ := typed.takeText
      dsimp only
      split
      · exact ⟨single, typed, fun files => ⟨trivial, files⟩⟩
      · exact ⟨single.enterText text command.range mode, left, fun files => ⟨trivial, files⟩⟩
  | read path =>
      rw [operation] at put
      simp only [Plan.run]
      cases found : world.files.load path with
      | error error =>
          have named := FileTree.singleLine_of_load_error put found
          exact ⟨single, typed, fun files => ⟨named, files⟩⟩
      | ok text =>
          have lines := FileTree.singleLine_of_load found
          refine ⟨?_, typed, fun files => ⟨trivial, files⟩⟩
          exact Buffer.singleLines_setFilename lines put
  | write path =>
      rw [operation] at put
      simp only [Plan.run]
      cases stored : (world.files.save path buffer.lines).1 with
      | error error =>
          refine ⟨single, typed, fun files => ⟨?_, files.save⟩⟩
          exact files.save_error put stored
      | ok count =>
          obtain ⟨lines, filename⟩ := Buffer.singleLines_setFilename single.lines put
          exact ⟨⟨lines, filename⟩, typed, fun files => ⟨trivial, files.save⟩⟩

end LineEditor
