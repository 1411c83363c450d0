import LineEditor.Proofs.Buffer.Edits
import LineEditor.Proofs.Execution.LineByLine
import LineEditor.Proofs.Execution.UnbrokenRuns

/-! Insertions and deletions that undo each other. Lines that are inserted can be deleted again,
lines that are deleted can be put back, and a range is deleted line by line as it is at once.
-/

namespace LineEditor

/-- A command that deletes every line marks all of them. -/
theorem LineRule.marks_delete (first : Nat) (lines : List String)
    : LineCommand.delete.rule.marks first lines = List.range' first lines.length := by
  rw [marks, List.filter_eq_self.mpr, List.zipIdx_map_snd]
  intro _ _
  rfl

namespace Buffer

variable {buffer : Buffer} {range : LineRange} {before block behind lines : List String}
  {index : Nat}

/-- Deleting lines makes another line current only where there are too few left. -/
theorem delete_dot (buffer : Buffer) (range : LineRange)
    : (buffer.delete range).dot = min buffer.dot ((buffer.delete range).size - 1) :=
  rfl

----------------------------------------------------------------------------------------
-- Insertions undone
----------------------------------------------------------------------------------------

/-- Lines that are inserted lie between those before their index and those behind it. -/
theorem cut_insert (inside : index ≤ buffer.size) (some : lines ≠ [])
    : (buffer.insert index lines).Cut ⟨index, index + lines.length - 1⟩
        (buffer.lines.take index) lines (buffer.lines.drop index) := by
  have count : 0 < lines.length := List.length_pos_iff.mpr some
  have start : (buffer.lines.take index).length = index := List.length_take_of_le inside
  have put
      : (buffer.insert (buffer.lines.take index).length lines).lines
        = buffer.lines.take index ++ lines ++ buffer.lines.drop index :=
    insert_lines_of_append (List.take_append_drop index buffer.lines).symm
  rw [start] at put
  refine ⟨put, start.symm, ?_⟩
  rw [start]
  dsimp only
  omega

/-- Deleting what was inserted brings back the buffer, but with unsaved changes. The current line
keeps its index, because it is in the buffer before and after.
-/
theorem delete_insert (valid : buffer.DotValid) (inside : index ≤ buffer.size) (some : lines ≠ [])
    : (buffer.insert index lines).delete ⟨index, index + lines.length - 1⟩
      = { buffer with dirty := true } := by
  have left : ((buffer.insert index lines).delete ⟨index, index + lines.length - 1⟩).lines
      = buffer.lines :=
    (cut_insert inside some).delete_lines.trans (List.take_append_drop index buffer.lines)
  ext1
  · exact left
  · rw [delete_dot, size, left, insert_dot]
    exact Nat.min_eq_left valid
  · rfl
  · simp

----------------------------------------------------------------------------------------
-- Deletions undone
----------------------------------------------------------------------------------------

/-- Inserting what was deleted brings back the lines. -/
theorem Cut.insert_delete_lines (cut : buffer.Cut range before block behind) (some : block ≠ [])
    : ((buffer.delete range).insert range.first (buffer.slice range)).lines = buffer.lines := by
  rw [cut.slice some, cut.first, insert_lines_of_append cut.delete_lines, cut.lines]

----------------------------------------------------------------------------------------
-- Deletions line by line
----------------------------------------------------------------------------------------

/-- Deleting each line of a range leaves the lines around it. -/
theorem Cut.deleteMarked_lines (cut : buffer.Cut range before block behind)
    : (buffer.deleteMarked (List.range' before.length block.length)).lines = before ++ behind := by
  have kept : LineCommand.delete.rule.rewrites = id := rfl
  have gone : block.filterMap LineCommand.delete.rule.leaves = [] :=
    List.filterMap_eq_nil_iff.mpr fun _ _ => rfl
  have found : buffer.lines = before ++ block.map LineCommand.delete.rule.rewrites ++ behind := by
    rw [kept, List.map_id, cut.lines]
  have deleted := Buffer.deleteMarked_lines LineCommand.delete.rule block found
  rwa [LineRule.marks_delete, gone, List.append_nil] at deleted

/-- Each deletion leaves the current line where it is unless there are too few lines left, and so do
all of them, by induction on the marks: each leaves no more lines than the one before.
-/
theorem deleteMarked_dot {marks : List Nat} (some : marks ≠ [])
    : (buffer.deleteMarked marks).dot
      = min buffer.dot ((buffer.deleteMarked marks).size - 1) := by
  induction marks with
  | nil => contradiction
  | cons index marks ih =>
      have fewer
          : ((buffer.deleteMarked marks).delete (.single index)).size
            ≤ (buffer.deleteMarked marks).size := by
        rw [delete_size]
        dsimp only [LineRange.single]
        omega
      show ((buffer.deleteMarked marks).delete (.single index)).dot
        = min buffer.dot (((buffer.deleteMarked marks).delete (.single index)).size - 1)
      rw [delete_dot]
      by_cases last : marks = []
      · subst last
        rfl
      · rw [ih last]
        omega

/-- Deleting the lines of a range one by one, the last one first, is deleting the range at once. -/
theorem Cut.deleteMarked_indices (cut : buffer.Cut range before block behind) (some : block ≠ [])
    : buffer.deleteMarked range.indices = buffer.delete range := by
  have indices : range.indices = List.range' before.length block.length := by
    rw [LineRange.indices, cut.first, cut.range_size some]
  have marked : range.indices ≠ [] := by
    simpa [indices] using some
  have lines : (buffer.deleteMarked range.indices).lines = (buffer.delete range).lines := by
    rw [indices, cut.deleteMarked_lines, cut.delete_lines]
  ext1
  · exact lines
  · rw [deleteMarked_dot marked, delete_dot, Buffer.size, lines, Buffer.size]
  · simp [marked]
  · simp

/-- Deleting the lines of a range one by one, the last one first, does not break off. -/
theorem foldlM_guardedDelete_indices (ordered : range.first ≤ range.last)
    (inside : range.last < buffer.size)
    : range.indices.reverse.foldlM (fun buffer index => buffer.guardedDelete (.single index)) buffer
      = .ok (buffer.deleteMarked range.indices) := by
  have descending : range.indices.reverse.Pairwise (· > ·) :=
    List.pairwise_reverse.mpr List.pairwise_lt_range'
  have there : ∀ index ∈ range.indices.reverse, index < buffer.size :=
    fun _ member => LineRange.lt_of_mem_indices ordered inside (List.mem_reverse.mp member)
  rw [Walk.foldlM_guardedDelete descending there, List.foldl_reverse]
  rfl

----------------------------------------------------------------------------------------
-- Insertions anywhere
----------------------------------------------------------------------------------------

/-- Lines inserted behind the end come right behind the last line. -/
theorem insert_of_size_le (beyond : buffer.size ≤ index) (lines : List String)
    : buffer.insert index lines = buffer.insert buffer.size lines := by
  have whole {index : Nat} (beyond : buffer.size ≤ index)
      : buffer.lines.take index = buffer.lines ∧ buffer.lines.drop index = [] :=
    ⟨List.take_of_length_le beyond, List.drop_of_length_le beyond⟩
  simp only [insert, whole beyond, whole (Nat.le_refl buffer.size)]

/-- Inserting and deleting undo each other. Lines that are inserted are the ones that a range takes
out again, which leaves the lines and the current line as they were; lines of a range that are taken
out are put back at its first index. Taking them out one by one, the last one first, leaves the same
as taking them out at once. An index behind the end stands for the end, and inserting nothing does
nothing.
-/
theorem insert_delete_undo (buffer : Buffer)
    : (∀ index lines,
          buffer.DotValid
          → index ≤ buffer.size
          → lines ≠ []
          → let inserted := buffer.insert index lines
            let range : LineRange := ⟨index, index + lines.length - 1⟩
            inserted.slice range = lines
            ∧ inserted.guardedDelete range = .ok { buffer with dirty := true })
      ∧ (∀ range : LineRange,
          range.first ≤ range.last
          → range.last < buffer.size
          → ∃ after,
              buffer.guardedDelete range = .ok after
              ∧ (after.insert range.first (buffer.slice range)).lines = buffer.lines
              ∧ range.indices.reverse.foldlM
                  (fun buffer index => buffer.guardedDelete (.single index)) buffer
                = .ok after)
      ∧ (∀ index lines,
          buffer.size ≤ index → buffer.insert index lines = buffer.insert buffer.size lines)
      ∧ ∀ index, buffer.insert index [] = buffer := by
  refine ⟨?_, ?_, fun index lines beyond => insert_of_size_le beyond lines, fun _ => rfl⟩
  · intro index lines valid inside some inserted range
    have count : 0 < lines.length := List.length_pos_iff.mpr some
    have ordered : range.first ≤ range.last := by
      dsimp only [range]
      omega
    have last : range.last < inserted.size := by
      dsimp only [range, inserted]
      rw [insert_size]
      omega
    refine ⟨(cut_insert inside some).slice some, ?_⟩
    rw [guardedDelete_of_lt ordered last, delete_insert valid inside some]
  · intro range ordered inside
    have has : buffer.HasRange range := ⟨ordered, Nat.le_sub_one_of_lt inside⟩
    have filled : ¬buffer.isEmpty = true := by
      rw [isEmpty_eq_true_iff]
      omega
    have cut := has.cut filled
    have some : buffer.slice range ≠ [] :=
      List.length_pos_iff.mp (has.length_slice filled ▸ Nat.succ_pos _)
    refine ⟨buffer.delete range, guardedDelete_of_lt ordered inside, ?_, ?_⟩
    · exact cut.insert_delete_lines some
    · rw [foldlM_guardedDelete_indices ordered inside, cut.deleteMarked_indices some]

/-- Two lines are put in the middle and taken out again. The last two lines are taken out, at once
or one by one, which makes the first line current, and put back.
-/
theorem insert_delete_undo_behind
    : let buffer : Buffer := { lines := ["a", "b", "c"], dot := 2 }
      (buffer.insert 1 ["x", "y"]).guardedDelete ⟨1, 2⟩
          = .ok { lines := ["a", "b", "c"], dot := 2, dirty := true }
        ∧ buffer.guardedDelete ⟨1, 2⟩ = .ok { lines := ["a"], dot := 0, dirty := true }
        ∧ [2, 1].foldlM (fun buffer index => buffer.guardedDelete (.single index)) buffer
          = .ok { lines := ["a"], dot := 0, dirty := true }
        ∧ (Buffer.insert { lines := ["a"], dot := 0, dirty := true } 1 ["b", "c"]).lines
          = ["a", "b", "c"]
        ∧ buffer.insert 9 ["x"] = buffer.insert 3 ["x"] := by
  intro buffer
  obtain ⟨inserted, deleted, beyond, -⟩ := insert_delete_undo buffer
  have removed : buffer.guardedDelete ⟨1, 2⟩ = .ok { lines := ["a"], dot := 0, dirty := true } :=
    rfl
  obtain ⟨after, first, back, each⟩ := deleted ⟨1, 2⟩ (by decide) (by decide)
  cases Except.ok.inj (first.symm.trans removed)
  exact ⟨(inserted 1 ["x", "y"] (Nat.le_refl 2) (by decide) (by simp)).2, removed, each, back,
    beyond 9 ["x"] (by decide)⟩

end Buffer

end LineEditor
