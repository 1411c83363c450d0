import LineEditor.Proofs.Command.CheckedRanges

/-! Lines cut out of a buffer and put into it, in terms of the lines around them. -/

namespace LineEditor

attribute [ext] Buffer

namespace Buffer

variable {buffer : Buffer} {range : LineRange} {before block behind : List String}

----------------------------------------------------------------------------------------
-- Lines of a range
----------------------------------------------------------------------------------------

/-- The lines before a range of the buffer are as many as the first index of the range. -/
theorem HasRange.length_take_first (has : buffer.HasRange range)
    : (buffer.lines.take range.first).length = range.first := by
  have ordered := has.ordered
  have inside := has.inside
  rw [List.length_take]
  unfold size at inside
  omega

/-- A range of a buffer that is not empty has all its lines there. -/
theorem HasRange.length_slice (has : buffer.HasRange range) (filled : ¬ buffer.isEmpty = true)
    : (buffer.slice range).length = range.size := by
  have ordered := has.ordered
  have inside := has.last_lt filled
  rw [slice_length, LineRange.size]
  omega

/-- The lines of a buffer are those before a range, those of the range and those behind it. -/
theorem lines_eq_slice (buffer : Buffer) (ordered : range.first ≤ range.last)
    : buffer.lines
      = buffer.lines.take range.first
        ++ (buffer.slice range ++ buffer.lines.drop (range.last + 1)) := by
  have last : range.last + 1 = range.first + range.size := by
    rw [LineRange.size]
    omega
  rw [slice, last, ← List.drop_drop, List.take_append_drop, List.take_append_drop]

----------------------------------------------------------------------------------------
-- Cuts
----------------------------------------------------------------------------------------

/-- The lines of a buffer are some lines, the lines of a range, and some more behind those. -/
structure Cut (buffer : Buffer) (range : LineRange) (before block behind : List String) : Prop where
  lines : buffer.lines = before ++ block ++ behind
  first : range.first = before.length
  last : range.last + 1 = before.length + block.length

/-- A buffer that is not empty is cut at each of its ranges. -/
theorem HasRange.cut (has : buffer.HasRange range) (filled : ¬ buffer.isEmpty = true)
    : buffer.Cut range (buffer.lines.take range.first) (buffer.slice range)
        (buffer.lines.drop (range.last + 1)) where
  lines := (buffer.lines_eq_slice has.ordered).trans (List.append_assoc _ _ _).symm
  first := has.length_take_first.symm
  last := by
    have ordered := has.ordered
    rw [has.length_take_first, has.length_slice filled, LineRange.size]
    omega

/-- The lines of the buffer are counted piece by piece. -/
theorem Cut.size (cut : buffer.Cut range before block behind)
    : buffer.size = before.length + block.length + behind.length := by
  rw [Buffer.size, cut.lines, List.length_append, List.length_append]

/-- A range that some lines lie in is one of the buffer. -/
theorem Cut.hasRange (cut : buffer.Cut range before block behind) (some : block ≠ [])
    : buffer.HasRange range := by
  have count : 0 < block.length := List.length_pos_iff.mpr some
  have first := cut.first
  have last := cut.last
  have size := cut.size
  constructor <;> omega

/-- The range has as many lines as lie in it. -/
theorem Cut.range_size (cut : buffer.Cut range before block behind) (some : block ≠ [])
    : range.size = block.length := by
  have count : 0 < block.length := List.length_pos_iff.mpr some
  have last := cut.last
  rw [LineRange.size, cut.first]
  omega

/-- The lines of the range are the ones in the middle. -/
theorem Cut.slice (cut : buffer.Cut range before block behind) (some : block ≠ [])
    : buffer.slice range = block := by
  rw [Buffer.slice, cut.range_size some, cut.lines, cut.first, List.append_assoc, List.drop_left,
    List.take_left]

/-- Deleting a range leaves the lines around it. -/
theorem Cut.delete_lines (cut : buffer.Cut range before block behind)
    : (buffer.delete range).lines = before ++ behind := by
  show buffer.lines.take range.first ++ buffer.lines.drop (range.last + 1) = before ++ behind
  rw [cut.last, ← List.length_append, cut.first, cut.lines, List.drop_left, List.append_assoc,
    List.take_left]

----------------------------------------------------------------------------------------
-- Insertions
----------------------------------------------------------------------------------------

/-- Inserting lines between some others leaves those around them. -/
theorem insert_lines_of_append {lines : List String} (cut : buffer.lines = before ++ behind)
    : (buffer.insert before.length lines).lines = before ++ lines ++ behind := by
  unfold insert
  split
  · next none => rw [cut, List.isEmpty_iff.mp none, List.append_nil]
  · dsimp only
    rw [cut, List.take_left, List.drop_left]

/-- Inserting is an unsaved change if there is something to insert. -/
@[simp] theorem insert_dirty (buffer : Buffer) (index : Nat) (lines : List String)
    : (buffer.insert index lines).dirty = (buffer.dirty || !lines.isEmpty) := by
  unfold insert
  split
  · next none => simp [none]
  · next some => simp [some]

end Buffer

end LineEditor
