import LineEditor.Execution.Lines
import LineEditor.Proofs.Buffer.Edits

/-! Walks over a range: which edits they make, that they mark lines in descending order below the
line they have come to, and that a walk which replaces nothing although its command can do nothing
else leaves everything as it was.
-/

namespace LineEditor

namespace Walk

variable {run : Nat → String → LineResult} {start : Buffer} {walk : Walk}

----------------------------------------------------------------------------------------
-- Walks are edits
----------------------------------------------------------------------------------------

/-- A visit edits the buffer by replacing a line at most. -/
theorem step_edited (index : Nat) (edited : start.Edited walk.buffer)
    : start.Edited (step run walk index).buffer := by
  simp only [step]
  cases (run index (walk.buffer.line index)).effect with
  | untouched | kept | deleted => exact edited
  | replaced text => exact edited.setLine

/-- A walk edits the buffer that it starts with, by induction on the lines still to visit. -/
theorem foldl_step_edited (indices : List Nat) (edited : start.Edited walk.buffer)
    : start.Edited (indices.foldl (step run) walk).buffer := by
  induction indices generalizing walk with
  | nil => exact edited
  | cons index rest ih => exact ih (step_edited index edited)

/-- Deleting lines one after the other is an edit, by induction on the lines. -/
theorem foldl_delete_edited {buffer : Buffer} (indices : List Nat)
    (edited : start.Edited buffer)
    : start.Edited
        (indices.foldl (fun buffer index => buffer.delete (.single index)) buffer) := by
  induction indices generalizing buffer with
  | nil => exact edited
  | cons index rest ih => exact ih edited.delete

/-- The end of a walk is an edit: it deletes lines and moves the current one. -/
theorem finish_edited (edited : start.Edited walk.buffer) : start.Edited walk.finish := by
  have deleted := foldl_delete_edited walk.deleted edited
  unfold finish
  cases walk.visited with
  | none => exact deleted
  | some index => exact deleted.setDot

/-- A whole walk with its end is an edit of the buffer walked over. -/
theorem along_finish_edited (run : Nat → String → LineResult) (buffer : Buffer)
    (range : LineRange)
    : buffer.Edited (along run buffer range).finish :=
  finish_edited (foldl_step_edited range.indices .refl)

----------------------------------------------------------------------------------------
-- Where walks have come to
----------------------------------------------------------------------------------------

/-- A visit keeps the number of lines, because marked lines are only deleted at the end. -/
theorem step_size (run : Nat → String → LineResult) (walk : Walk) (index : Nat)
    : (step run walk index).buffer.size = walk.buffer.size := by
  simp only [step]
  cases (run index (walk.buffer.line index)).effect with
  | untouched | kept | deleted => rfl
  | replaced text => exact Buffer.setLine_size _ _ _

/-- A walk that has come to the line at index `next` of a buffer of some size: no line is gone,
and only lines before that one are marked, the last first.
-/
structure ComeTo (walk : Walk) (size next : Nat) : Prop where
  size : walk.buffer.size = size
  descending : walk.deleted.Pairwise (· > ·)
  marked : ∀ index ∈ walk.deleted, index < next

/-- A visit of the line that a walk has come to brings it to the next one. -/
theorem ComeTo.step {size next : Nat} (come : walk.ComeTo size next)
    : (step run walk next).ComeTo size (next + 1) := by
  have marked : ∀ index ∈ walk.deleted, index < next + 1 :=
    fun index member => Nat.lt_succ_of_lt (come.marked index member)
  simp only [Walk.step]
  cases (run next (walk.buffer.line next)).effect with
  | untouched | kept =>
      exact {
        size := come.size
        descending := come.descending
        marked := marked
      }
  | replaced text =>
      exact {
        size := (Buffer.setLine_size _ _ _).trans come.size
        descending := come.descending
        marked := marked
      }
  | deleted =>
      exact {
        size := come.size
        descending := List.pairwise_cons.mpr ⟨come.marked, come.descending⟩
        marked := List.forall_mem_cons.mpr ⟨Nat.lt_succ_self next, marked⟩
      }

/-- Visits of consecutive lines bring a walk behind them, by induction on their number. -/
theorem ComeTo.foldl_step {size next : Nat} (count : Nat) (come : walk.ComeTo size next)
    : ((List.range' next count).foldl (Walk.step run) walk).ComeTo size (next + count) := by
  induction count generalizing walk next with
  | zero => exact come
  | succ count ih =>
      rw [List.range'_succ, List.foldl_cons, Nat.add_comm count, ← Nat.add_assoc]
      exact ih come.step

/-- A walk over a range comes behind it. -/
theorem along_comeTo (run : Nat → String → LineResult) (buffer : Buffer) (range : LineRange)
    : (along run buffer range).ComeTo buffer.size (range.first + range.size) :=
  ComeTo.foldl_step range.size {
    size := rfl
    descending := .nil
    marked := by simp
  }

----------------------------------------------------------------------------------------
-- Walks that replace nothing
----------------------------------------------------------------------------------------

/-- The command replaces a line or leaves it untouched without printing anything. -/
def OnlyReplaces (run : Nat → String → LineResult) : Prop :=
  ∀ index line,
    run index line = ⟨.untouched, ""⟩ ∨ ∃ text, (run index line).effect = .replaced text

/-- Substitutions only replace lines, because a line without a match is untouched. -/
theorem onlyReplaces_substitute (substitution : Substitution)
    : OnlyReplaces (LineCommand.substitute substitution).run := by
  intro index line
  simp only [LineCommand.run]
  cases substitution.apply line with
  | none => exact Or.inl rfl
  | some text => exact Or.inr ⟨text, rfl⟩

/-- A visit never takes back the count of replaced lines. -/
theorem replaced_le_step (index : Nat) : walk.replaced ≤ (step run walk index).replaced := by
  simp only [step]
  cases (run index (walk.buffer.line index)).effect with
  | untouched | kept | deleted => exact Nat.le_refl _
  | replaced text => exact Nat.le_succ _

/-- A walk never takes back the count of replaced lines, by induction on the lines. -/
theorem replaced_le_foldl_step (run : Nat → String → LineResult) (walk : Walk)
    (indices : List Nat)
    : walk.replaced ≤ (indices.foldl (step run) walk).replaced := by
  induction indices generalizing walk with
  | nil => exact Nat.le_refl _
  | cons index rest ih => exact Nat.le_trans (replaced_le_step index) (ih _)

/-- A visit of a command that only replaces does nothing, or it is counted. -/
theorem step_eq_or_lt (only : OnlyReplaces run) (walk : Walk) (index : Nat)
    : step run walk index = walk ∨ walk.replaced < (step run walk index).replaced := by
  rcases only index (walk.buffer.line index) with untouched | ⟨text, replaced⟩
  · left
    simp [step, untouched]
  · right
    simp [step, replaced]

/-- A walk of a command that only replaces does nothing if the count stays, by induction on the
lines: the first visit that does something raises the count for good.
-/
theorem foldl_step_eq_self (only : OnlyReplaces run) (indices : List Nat)
    (count : (indices.foldl (step run) walk).replaced = walk.replaced)
    : indices.foldl (step run) walk = walk := by
  induction indices generalizing walk with
  | nil => rfl
  | cons index rest ih =>
      rw [List.foldl_cons] at count ⊢
      rcases step_eq_or_lt only walk index with same | more
      · rw [same] at count ⊢
        exact ih count
      · have kept := replaced_le_foldl_step run (step run walk index) rest
        omega

/-- A walk of a command that only replaces leaves the buffer and prints nothing if it replaced
no line.
-/
theorem along_eq_of_replaced_eq_zero (only : OnlyReplaces run) {buffer : Buffer}
    {range : LineRange} (none : (along run buffer range).replaced = 0)
    : along run buffer range = { buffer := buffer } :=
  foldl_step_eq_self only range.indices none

end Walk

end LineEditor
