import Mathlib.Control.Monad.Basic
import LineEditor.Proofs.Execution.GuardedRuns
import LineEditor.Session

/-! Guarded runs that do not break off. A command that was read against the buffer visits, deletes
and inserts lines that are there, and its guarded run is its run.
-/

namespace LineEditor

----------------------------------------------------------------------------------------
-- Walks that do not break off
----------------------------------------------------------------------------------------

namespace Walk

variable {run : Nat → String → LineResult} {walk : Walk}

/-- A visit of a line of the buffer does not break off. -/
theorem guardedStep_of_lt {index : Nat} (inside : index < walk.buffer.size)
    : guardedStep run walk index = .ok (step run walk index) := by
  simp only [guardedStep, step, Buffer.guardedLine_of_lt inside, bind, Except.bind]
  cases (run index (walk.buffer.line index)).effect with
  | untouched | kept | deleted => rfl
  | replaced text =>
      simp only [Buffer.guardedSetLine_of_lt text inside]
      rfl

/-- Visits of lines of the buffer do not break off, by induction on the lines: a visit keeps the
number of lines, so that those still to visit stay inside.
-/
theorem foldlM_guardedStep {indices : List Nat}
    (inside : ∀ index ∈ indices, index < walk.buffer.size)
    : indices.foldlM (guardedStep run) walk = .ok (indices.foldl (step run) walk) := by
  induction indices generalizing walk with
  | nil => rfl
  | cons index rest ih =>
      obtain ⟨first, later⟩ := List.forall_mem_cons.mp inside
      simp only [List.foldlM_cons, List.foldl_cons, guardedStep_of_lt first, bind, Except.bind]
      exact ih (by simpa only [step_size] using later)

/-- A walk over a range of the buffer does not break off. -/
theorem guardedAlong_of_lt {buffer : Buffer} {range : LineRange}
    (ordered : range.first ≤ range.last) (inside : range.last < buffer.size)
    : guardedAlong run buffer range = .ok (along run buffer range) := by
  have visited : ∀ index ∈ range.indices, index < buffer.size :=
    fun _ member => LineRange.lt_of_mem_indices ordered inside member
  simp only [guardedAlong, LineRange.guardedIndices_of_ordered ordered, bind, Except.bind]
  exact foldlM_guardedStep visited

/-- Deleting marked lines from the last to the first does not break off, by induction on the
lines: those still marked lie before the one just deleted, so that they are still there.
-/
theorem foldlM_guardedDelete {indices : List Nat} {buffer : Buffer}
    (descending : indices.Pairwise (· > ·)) (inside : ∀ index ∈ indices, index < buffer.size)
    : indices.foldlM (fun buffer index => buffer.guardedDelete (.single index)) buffer
      = .ok (indices.foldl (fun buffer index => buffer.delete (.single index)) buffer) := by
  induction indices generalizing buffer with
  | nil => rfl
  | cons index rest ih =>
      obtain ⟨before, restDescending⟩ := List.pairwise_cons.mp descending
      have first : index < buffer.size := inside index (by simp)
      have deleted : buffer.guardedDelete (.single index) = .ok (buffer.delete (.single index)) :=
        Buffer.guardedDelete_of_lt (Nat.le_refl index) first
      simp only [List.foldlM_cons, List.foldl_cons, deleted, bind, Except.bind]
      refine ih restDescending ?_
      intro other member
      have lower : other < index := before other member
      simp only [Buffer.delete_size, LineRange.single]
      omega

/-- Descending numbers below a bound are no more than the bound, by induction on the numbers with
the first of them as the next bound.
-/
theorem length_le_of_descending {indices : List Nat} {bound : Nat}
    (descending : indices.Pairwise (· > ·)) (below : ∀ index ∈ indices, index < bound)
    : indices.length ≤ bound := by
  induction indices generalizing bound with
  | nil => exact Nat.zero_le _
  | cons index rest ih =>
      obtain ⟨before, restDescending⟩ := List.pairwise_cons.mp descending
      have first : index < bound := below index (by simp)
      have fewer : rest.length ≤ index := ih restDescending before
      simp only [List.length_cons]
      omega

/-- The end of a walk that stayed inside the buffer does not break off: what is marked can be
deleted, and no more lines are deleted above the last visited one than there are.
-/
theorem guardedFinish_of_comeTo {size next : Nat} (come : walk.ComeTo size next)
    (inside : next ≤ size)
    : walk.guardedFinish = .ok walk.finish := by
  have marked : ∀ index ∈ walk.deleted, index < walk.buffer.size := by
    intro index member
    have before := come.marked index member
    have size := come.size
    omega
  simp only [guardedFinish, finish, foldlM_guardedDelete come.descending marked, bind,
    Except.bind]
  cases walk.visited with
  | none => rfl
  | some index =>
      have above : (walk.deleted.filter fun deleted => deleted < index).length ≤ index :=
        length_le_of_descending (come.descending.filter _) (by simp)
      simp only [guardedSub_of_le above]
      rfl

/-- A whole walk over a range of the buffer with its end does not break off. -/
theorem guardedChange_along {buffer : Buffer} {range : LineRange}
    (ordered : range.first ≤ range.last) (inside : range.last < buffer.size)
    : (along run buffer range).guardedChange = .ok (along run buffer range).change := by
  have come := along_comeTo run buffer range
  have end_ : range.first + range.size ≤ buffer.size := by
    simp only [LineRange.size]
    omega
  simp only [guardedChange, guardedFinish_of_comeTo come end_, bind, Except.bind]
  rfl

end Walk

----------------------------------------------------------------------------------------
-- Commands that do not break off
----------------------------------------------------------------------------------------

namespace Buffer

variable {buffer : Buffer} {range : LineRange}

/-- Commands on single lines do not break off on a range of the buffer. -/
theorem guardedRunLines_each (has : buffer.HasRange range) (inner : LineCommand)
    : buffer.guardedRunLines range (.each inner) = .ok (buffer.runEach range inner) := by
  unfold guardedRunLines runEach
  split
  · rfl
  · next some =>
      have inside := has.last_lt some
      simp only [Operation.guardedLineRun, Walk.guardedAlong_of_lt has.ordered inside, bind,
        Except.bind]
      cases inner with
      | print | number | delete => exact Walk.guardedChange_along has.ordered inside
      | substitute substitution =>
          dsimp only
          split
          · rfl
          · exact Walk.guardedChange_along has.ordered inside

/-- Global commands do not break off on a range of the buffer. -/
theorem guardedRunLines_global (has : buffer.HasRange range) (inner : GlobalCommand)
    : buffer.guardedRunLines range (.global inner) = .ok (buffer.runGlobal range inner) := by
  unfold guardedRunLines runGlobal
  split
  · rfl
  · next some =>
      have inside := has.last_lt some
      simp only [Operation.guardedLineRun, Walk.guardedAlong_of_lt has.ordered inside, bind,
        Except.bind]
      exact Walk.guardedChange_along has.ordered inside

/-- Placing text does not break off at an index of the buffer or behind its last line. -/
theorem guardedPlaceText_of_le {index : Nat} (mode : InputMode) (lines : List String)
    (inside : index ≤ buffer.size)
    : buffer.guardedPlaceText index mode lines
      = .ok
          (if !lines.isEmpty then (buffer.insert index lines).setDot (index + lines.length - 1)
          else if mode = .change then (buffer.insert index lines).setDot index
          else buffer.insert index lines) := by
  simp only [guardedPlaceText, guardedInsert_of_le lines inside, bind, Except.bind]
  cases lines with
  | nil =>
      simp only [List.isEmpty_nil, Bool.not_true, Bool.false_eq_true, if_false]
      split <;> rfl
  | cons line rest =>
      have positive : 1 ≤ index + (line :: rest).length := by
        simp only [List.length_cons]
        omega
      simp only [guardedSub_of_le positive]
      rfl

/-- Entering text does not break off at a range of the buffer, unless lines of an empty buffer are
to be changed: in each mode the text is inserted before a line or behind the last one, also where
the lines of the range are deleted first.
-/
theorem guardedEnterText_of_hasRange (has : buffer.HasRange range) {mode : InputMode}
    (lines : List String) (some : mode = .change → ¬ buffer.isEmpty = true)
    : buffer.guardedEnterText range mode lines = .ok (buffer.enterText range mode lines) := by
  have inside := has.inside
  have ordered := has.ordered
  unfold guardedEnterText enterText
  cases mode with
  | insert =>
      have before : range.first ≤ buffer.size := by omega
      exact guardedPlaceText_of_le .insert lines before
  | append =>
      refine guardedPlaceText_of_le .append lines ?_
      split
      · exact Nat.zero_le _
      · next some => exact has.last_lt some
  | change =>
      have last := has.last_lt (some rfl)
      have before : range.first ≤ (buffer.delete range).size := by
        rw [delete_size]
        omega
      simp only [guardedDelete_of_lt ordered last, bind, Except.bind]
      exact guardedPlaceText_of_le .change lines before

/-- A move does not break off on a range of the buffer: its destination lies before or behind the
range, so that there is a place for the lines once they are deleted.
-/
theorem guardedMoveLines_of_hasRange (has : buffer.HasRange range) (destination : Int)
    : buffer.guardedMoveLines range destination = .ok (buffer.moveLines range destination) := by
  unfold guardedMoveLines moveLines
  split
  · rfl
  · next some =>
      dsimp only
      split
      · rfl
      · next admitted =>
          have ordered := has.ordered
          have last := has.last_lt some
          have count : (buffer.slice range).length = range.last - range.first + 1 := by
            rw [slice_length, LineRange.size]
            omega
          have rest : (buffer.delete range).size = range.first + (buffer.size - (range.last + 1)) := by
            rw [delete_size]
            omega
          simp only [Bool.or_eq_true, Bool.and_eq_true, decide_eq_true_eq, not_or, not_and]
            at admitted
          unfold lastIndex at admitted
          generalize behind : (if destination > range.last then
            destination - ((buffer.slice range).length : Int) else destination) = place
          have bounds : 0 ≤ place + 1 ∧ (place + 1).toNat ≤ (buffer.delete range).size := by
            rw [← behind, rest, count]
            split <;> omega
          have positive : 1 ≤ (place + 1).toNat + (buffer.slice range).length := by
            omega
          simp only [guardedDelete_of_lt ordered last, guardedIndex_of_le bounds.1,
            guardedInsert_of_le _ bounds.2, guardedSub_of_le positive, bind, Except.bind]
          rfl

end Buffer

/-- A command on a range of the buffer does not break off, by cases on its operation; the plan of
the command is carried out step by step.
-/
theorem Command.guardedRun_of_hasRange {command : Command} {buffer : Buffer}
    (has : buffer.HasRange command.range) (world : World)
    : command.guardedRun buffer world = .ok ((command.plan buffer).run world) := by
  unfold guardedRun plan
  cases command.operation with
  | each inner =>
      simp only [Buffer.guardedRunLines_each has inner, bind, Except.bind]
      rfl
  | global inner =>
      simp only [Buffer.guardedRunLines_global has inner, bind, Except.bind]
      rfl
  | input mode =>
      dsimp only
      split
      · rfl
      · next admitted =>
          have some : mode = .change → ¬ buffer.isEmpty = true := by
            intro change empty
            exact admitted (by simp [change, empty])
          simp only [Buffer.guardedEnterText_of_hasRange has _ some, bind, Except.bind]
          rfl
  | move destination =>
      simp only [Buffer.guardedMoveLines_of_hasRange has destination, bind, Except.bind]
      rfl
  | read path | write path | quit => rfl

/-- A command line that can be read has a range in order, of lines of the buffer or of index zero
for a buffer without lines; the inner command of a global one acts on single lines; and the
command runs on the buffer without breaking off, to the end that its plan has. The check of the
range before the operation is read is what keeps every step inside the buffer.
-/
theorem Context.readCommand_unbroken {context : Context} {line : String} {command : Command}
    {memory : Memory} (read : context.readCommand line = (.ok command, memory)) (world : World)
    : command.range.first ≤ command.range.last
      ∧ (command.range.last < context.buffer.size
        ∨ context.buffer.size = 0 ∧ command.range.first = 0 ∧ command.range.last = 0)
      ∧ (∀ global,
          command.operation = .global global
          → global.command = .print
            ∨ global.command = .number
            ∨ global.command = .delete
            ∨ ∃ substitution, global.command = .substitute substitution)
      ∧ command.guardedRun context.buffer world
        = .ok ((command.plan context.buffer).run world) := by
  have has := hasRange_of_readCommand read
  refine ⟨has.ordered, ?_, ?_, Command.guardedRun_of_hasRange has world⟩
  · have ordered := has.ordered
    have inside := has.inside
    omega
  · intro global _
    cases global.command with
    | print => exact Or.inl rfl
    | number => exact Or.inr (Or.inl rfl)
    | delete => exact Or.inr (Or.inr (Or.inl rfl))
    | substitute substitution => exact Or.inr (Or.inr (Or.inr ⟨substitution, rfl⟩))

/-- A global command that deletes the first and the last of three lines does not break off. -/
theorem Context.readCommand_unbroken_deleting
    : ∃ command memory,
        ({ buffer := .ofLines ["ab", "c", "a"] } : Context).readCommand "g/a/d"
          = (.ok command, memory)
        ∧ command.range = ⟨0, 2⟩
        ∧ command.guardedRun (.ofLines ["ab", "c", "a"]) ⟨⟨[]⟩, {}⟩
          = .ok ((command.plan (.ofLines ["ab", "c", "a"])).run ⟨⟨[]⟩, {}⟩)
        ∧ ((command.plan (.ofLines ["ab", "c", "a"])).run ⟨⟨[]⟩, {}⟩).1.buffer.lines = ["c"] := by
  let pattern : Pattern := ⟨"a", ⟨#[.accept, .one ⟨[(97, 97)]⟩ 0], 1⟩⟩
  have read
      : ({ buffer := .ofLines ["ab", "c", "a"] } : Context).readCommand "g/a/d"
        = (.ok ⟨⟨0, 2⟩, .global ⟨pattern, true, .delete⟩⟩, { search := some pattern }) := by
    decide +kernel
  exact ⟨_, _, read, rfl, (readCommand_unbroken read ⟨⟨[]⟩, {}⟩).2.2.2, by decide +kernel⟩

end LineEditor
