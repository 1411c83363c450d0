import LineEditor.Buffer

/-! Edits of a buffer: what changes of its lines and of its current line keep, in any order and
number. The current line stays valid, and a buffer that counts as saved has the lines it had.
-/

namespace LineEditor

namespace Buffer

/-- The second buffer comes from the first by replacing, inserting and deleting lines and by
moving the current line.
-/
inductive Edited (start : Buffer) : Buffer → Prop
  | refl : Edited start start
  | setLine {buffer index text} (before : Edited start buffer)
    : Edited start (buffer.setLine index text)
  | insert {buffer index lines} (before : Edited start buffer)
    : Edited start (buffer.insert index lines)
  | delete {buffer range} (before : Edited start buffer)
    : Edited start (buffer.delete range)
  | setDot {buffer index} (before : Edited start buffer)
    : Edited start (buffer.setDot index)

/-- The current line is one of the buffer, or has index zero where there are no lines. -/
def DotValid (buffer : Buffer) : Prop := buffer.dot ≤ buffer.size - 1

/-- Moving the current line makes it valid, whatever index is asked for. -/
theorem dotValid_setDot (buffer : Buffer) (index : Nat) : (buffer.setDot index).DotValid :=
  Nat.min_le_right _ _

/-- Deleting makes the current line valid, because it moves it to where it was. -/
theorem dotValid_delete (buffer : Buffer) (range : LineRange)
    : (buffer.delete range).DotValid :=
  dotValid_setDot _ _

/-- A new set of lines has its last line as the current one. -/
theorem dotValid_replaceAll (buffer : Buffer) (lines : List String)
    : (buffer.replaceAll lines).DotValid :=
  Nat.le_refl _

/-- Edits keep the current line valid, by cases on the last of them: replacing a line keeps the
number of lines, and inserting lines can only raise it.
-/
theorem Edited.dotValid {start buffer : Buffer} (edited : Edited start buffer)
    (valid : start.DotValid)
    : buffer.DotValid := by
  induction edited with
  | refl => exact valid
  | setLine _ ih => simpa [DotValid] using ih
  | @insert buffer index lines _ ih =>
      have more : buffer.size - 1 ≤ (buffer.insert index lines).size - 1 := by
        rw [insert_size]
        omega
      exact Nat.le_trans (by simpa [DotValid] using ih) more
  | delete _ _ => exact dotValid_delete _ _
  | setDot _ _ => exact dotValid_setDot _ _

/-- Replacing a line is an unsaved change unless the line had that text already. -/
theorem setLine_clean {buffer : Buffer} {index : Nat} {text : String}
    (clean : (buffer.setLine index text).dirty = false)
    : buffer.setLine index text = buffer := by
  unfold setLine at clean ⊢
  split
  · rfl
  · simp_all

/-- Inserting is an unsaved change unless there is nothing to insert. -/
theorem insert_clean {buffer : Buffer} {index : Nat} {lines : List String}
    (clean : (buffer.insert index lines).dirty = false)
    : buffer.insert index lines = buffer := by
  unfold insert at clean ⊢
  split
  · rfl
  · simp_all

/-- A buffer without unsaved changes after some edits had none before them and has the same
lines. Each edit that changes the lines sets the mark, and none takes it away.
-/
theorem Edited.clean {start buffer : Buffer} (edited : Edited start buffer)
    (clean : buffer.dirty = false)
    : start.dirty = false ∧ buffer.lines = start.lines := by
  induction edited with
  | refl => exact ⟨clean, rfl⟩
  | setLine _ ih =>
      have same := setLine_clean clean
      rw [same] at clean ⊢
      exact ih clean
  | insert _ ih =>
      have same := insert_clean clean
      rw [same] at clean ⊢
      exact ih clean
  | delete _ _ => simp at clean
  | setDot _ ih => exact ih clean

/-- Edits leave the name of the file alone. -/
theorem Edited.filename {start buffer : Buffer} (edited : Edited start buffer)
    : buffer.filename = start.filename := by
  induction edited with
  | refl => rfl
  | setLine _ ih | insert _ ih | delete _ ih | setDot _ ih => simpa using ih

/-- The buffer comes from an empty one by edits, by swapping in whole new sets of lines, by
declaring the lines saved and by naming the file.
-/
inductive Built : Buffer → Prop
  | empty : Built {}
  | edited {buffer after} (before : Built buffer) (edited : buffer.Edited after) : Built after
  | replaceAll {buffer lines} (before : Built buffer) : Built (buffer.replaceAll lines)
  | markClean {buffer} (before : Built buffer) : Built buffer.markClean
  | setFilename {buffer name} (before : Built buffer) : Built (buffer.setFilename name)

/-- A buffer that holds saved lines is built from nothing. -/
theorem built_ofLines (lines : List String) : (ofLines lines).Built :=
  .replaceAll .empty

/-- However a buffer was built its current line is valid. Edits keep it so, a new set of lines
makes it so, and the mark and the name have no part in it.
-/
theorem Built.dotValid {buffer : Buffer} (built : buffer.Built) : buffer.DotValid := by
  induction built with
  | empty => exact Nat.le_refl _
  | edited _ edited ih => exact edited.dotValid ih
  | replaceAll _ _ => exact dotValid_replaceAll _ _
  | markClean _ ih | setFilename _ ih => exact ih

end Buffer

end LineEditor
