/-! The lines being edited, with the current line, the mark of unsaved changes and the file name. -/

namespace LineEditor

/-- Lines from one index to another, both included; indices count from zero. -/
structure LineRange where
  first : Nat
  last : Nat
  deriving DecidableEq, Repr

namespace LineRange

/-- The range of one line. -/
def single (index : Nat) : LineRange := ⟨index, index⟩

/-- How many lines the range has. -/
def size (range : LineRange) : Nat := range.last - range.first + 1

/-- The line lies in the range. -/
def contains (range : LineRange) (index : Nat) : Bool :=
  range.first ≤ index && index ≤ range.last

/-- The indices of the range in order. -/
def indices (range : LineRange) : List Nat :=
  List.range' range.first range.size

end LineRange

/-- The buffer: `dot` is the index of the current line, `dirty` tells of unsaved changes. -/
structure Buffer where
  lines : List String := []
  dot : Nat := 0
  dirty : Bool := false
  filename : Option String := none
  deriving DecidableEq, Repr

namespace Buffer

/-- How many lines there are. -/
def size (buffer : Buffer) : Nat := buffer.lines.length

/-- There are no lines. -/
def isEmpty (buffer : Buffer) : Bool := buffer.lines.isEmpty

/-- The index of the last line, and −1 where there is none. -/
def lastIndex (buffer : Buffer) : Int := buffer.size - 1

/-- The line at an index; outside the buffer the text is empty. -/
def line (buffer : Buffer) (index : Nat) : String := buffer.lines.getD index ""

/-- The first line after an index that satisfies a condition. -/
def searchForward (buffer : Buffer) (accepts : String → Bool) (index : Nat) : Option Nat :=
  ((buffer.lines.drop (index + 1)).findIdx? accepts).map (· + (index + 1))

/-- The last line before an index that satisfies a condition. -/
def searchBackward (buffer : Buffer) (accepts : String → Bool) (index : Nat)
    : Option Nat :=
  let before := buffer.lines.take index
  (before.reverse.findIdx? accepts).map (before.length - 1 - ·)

/-- Makes a line current, or the last line if the index is beyond it. -/
def setDot (buffer : Buffer) (index : Nat) : Buffer :=
  { buffer with dot := min index (buffer.size - 1) }

/-- Swaps in a whole new set of lines, which count as saved; the last one becomes current. -/
def replaceAll (buffer : Buffer) (lines : List String) : Buffer :=
  { buffer with lines := lines, dot := lines.length - 1, dirty := false }

/-- A buffer that holds saved lines. -/
def ofLines (lines : List String) : Buffer := ({} : Buffer).replaceAll lines

/-- Puts a text in the place of a line; the same text is no change. -/
def setLine (buffer : Buffer) (index : Nat) (text : String) : Buffer :=
  if buffer.lines[index]? = some text then buffer
  else { buffer with lines := buffer.lines.set index text, dirty := true }

/-- Inserts lines so that the first of them gets an index, or the index after the last line if
that is less. The current line keeps its index.
-/
def insert (buffer : Buffer) (index : Nat) (lines : List String) : Buffer :=
  if lines.isEmpty then buffer
  else
    { buffer with
      lines := buffer.lines.take index ++ lines ++ buffer.lines.drop index
      dirty := true }

/-- The lines of a range. -/
def slice (buffer : Buffer) (range : LineRange) : List String :=
  (buffer.lines.drop range.first).take range.size

/-- Removes the lines of a range. -/
def delete (buffer : Buffer) (range : LineRange) : Buffer :=
  { buffer with
    lines := buffer.lines.take range.first ++ buffer.lines.drop (range.last + 1)
    dirty := true }.setDot buffer.dot

/-- Declares the lines saved. -/
def markClean (buffer : Buffer) : Buffer := { buffer with dirty := false }

/-- Names the file that the lines belong to. -/
def setFilename (buffer : Buffer) (name : String) : Buffer :=
  { buffer with filename := some name }

variable (buffer : Buffer) (index : Nat) (range : LineRange) (text : String)
  (lines : List String)

@[simp] theorem isEmpty_eq_true_iff : buffer.isEmpty = true ↔ buffer.size = 0 := by
  simp [isEmpty, size]

@[simp] theorem setDot_lines : (buffer.setDot index).lines = buffer.lines := rfl

@[simp] theorem setDot_dot : (buffer.setDot index).dot = min index (buffer.size - 1) := rfl

@[simp] theorem setDot_filename : (buffer.setDot index).filename = buffer.filename := rfl

@[simp] theorem setDot_size : (buffer.setDot index).size = buffer.size := rfl

@[simp] theorem setLine_size : (buffer.setLine index text).size = buffer.size := by
  unfold setLine
  split <;> simp [size]

@[simp] theorem setLine_dot : (buffer.setLine index text).dot = buffer.dot := by
  unfold setLine
  split <;> rfl

@[simp] theorem setLine_filename : (buffer.setLine index text).filename = buffer.filename := by
  unfold setLine
  split <;> rfl

/-- Wherever lines are inserted all of them come in, because an index beyond the end stands for
the end.
-/
@[simp] theorem insert_size : (buffer.insert index lines).size = buffer.size + lines.length := by
  unfold insert
  split
  · simp_all
  · simp only [size, List.length_append, List.length_take, List.length_drop]
    omega

@[simp] theorem insert_dot : (buffer.insert index lines).dot = buffer.dot := by
  unfold insert
  split <;> rfl

@[simp] theorem insert_filename : (buffer.insert index lines).filename = buffer.filename := by
  unfold insert
  split <;> rfl

@[simp] theorem delete_size
    : (buffer.delete range).size
      = min range.first buffer.size + (buffer.size - (range.last + 1)) := by
  simp [delete, size]

@[simp] theorem delete_dirty : (buffer.delete range).dirty = true := rfl

@[simp] theorem delete_filename : (buffer.delete range).filename = buffer.filename := rfl

theorem slice_length : (buffer.slice range).length = min range.size (buffer.size - range.first) := by
  simp [slice, size]

end Buffer

end LineEditor
