import Mathlib.Order.Bounds.Basic
import LineEditor.Buffer

/-! Searches through a buffer. A search finds the nearest line on its side of the start and does not
go round the end; a search backward is a search forward through the lines in reverse.
-/

namespace LineEditor.Buffer

variable {buffer : Buffer} {accepts : String → Bool} {start index : Nat}

/-- The indices of the lines that satisfy a condition. -/
def accepted (buffer : Buffer) (accepts : String → Bool) : Set Nat :=
  {index | ∃ line, buffer.lines[index]? = some line ∧ accepts line = true}

/-- The buffer with its lines in reverse. -/
def mirrored (buffer : Buffer) : Buffer :=
  { buffer with lines := buffer.lines.reverse }

@[simp] theorem mirrored_size (buffer : Buffer) : buffer.mirrored.size = buffer.size :=
  List.length_reverse

theorem lt_size_of_mem_accepted (member : index ∈ buffer.accepted accepts)
    : index < buffer.size := by
  obtain ⟨line, found, _⟩ := member
  exact (List.getElem?_eq_some_iff.mp found).1

/-- The line of an index is that of the mirrored index among the lines in reverse. -/
theorem mem_accepted_mirrored_iff (inside : index < buffer.size)
    : buffer.size - 1 - index ∈ buffer.mirrored.accepted accepts
      ↔ index ∈ buffer.accepted accepts := by
  have reversed : buffer.lines.reverse[buffer.size - 1 - index]? = buffer.lines[index]? := by
    unfold size at inside ⊢
    rw [List.getElem?_reverse (by omega)]
    congr 1
    omega
  show (∃ line, buffer.lines.reverse[buffer.size - 1 - index]? = some line ∧ _) ↔ _
  rw [reversed]
  rfl

----------------------------------------------------------------------------------------
-- Forward
----------------------------------------------------------------------------------------

/-- What a search forward finds is the least index behind the start. -/
theorem isLeast_of_searchForward (found : buffer.searchForward accepts start = some index)
    : IsLeast {index | start < index ∧ index ∈ buffer.accepted accepts} index := by
  unfold searchForward at found
  obtain ⟨count, counted, rfl⟩ := Option.map_eq_some_iff.mp found
  obtain ⟨inside, matching, before⟩ := List.findIdx?_eq_some_iff_getElem.mp counted
  rw [List.length_drop] at inside
  simp only [List.getElem_drop, Nat.add_comm (start + 1)] at matching before
  refine ⟨⟨by omega, _, List.getElem?_eq_getElem (by omega), matching⟩, ?_⟩
  rintro other ⟨behind, line, member, accepted⟩
  by_contra nearer
  obtain ⟨_, same⟩ := List.getElem?_eq_some_iff.mp member
  have skipped := before (other - (start + 1)) (by omega)
  have place : other - (start + 1) + (start + 1) = other := by omega
  simp only [place, same] at skipped
  exact skipped accepted

/-- A search forward that finds nothing has looked at every line behind the start. -/
theorem not_accepted_of_searchForward (missed : buffer.searchForward accepts start = none)
    (behind : start < index)
    : index ∉ buffer.accepted accepts := by
  rintro ⟨line, found, matching⟩
  unfold searchForward at missed
  have none := List.findIdx?_eq_none_iff.mp (Option.map_eq_none_iff.mp missed)
  have member : line ∈ buffer.lines.drop (start + 1) := by
    have place : start + 1 + (index - (start + 1)) = index := by omega
    rw [List.mem_iff_getElem?]
    exact ⟨index - (start + 1), by rw [List.getElem?_drop, place, found]⟩
  exact Bool.false_ne_true ((none line member).symm.trans matching)

----------------------------------------------------------------------------------------
-- Backward
----------------------------------------------------------------------------------------

/-- A search backward is a search forward through the lines in reverse from the mirrored start,
because the lines before the start are in reverse those behind its mirrored index.
-/
theorem searchBackward_eq_mirrored (inside : start ≤ buffer.size - 1)
    : buffer.searchBackward accepts start
      = (buffer.mirrored.searchForward accepts (buffer.size - 1 - start)).map
          (buffer.size - 1 - ·) := by
  have lines
      : (buffer.lines.take start).reverse
        = buffer.lines.reverse.drop (buffer.size - 1 - start + 1) := by
    rw [List.reverse_take]
    unfold size at inside ⊢
    generalize buffer.lines = lines at inside
    rcases lines with _ | ⟨line, rest⟩
    · simp
    · have count : (line :: rest).length - start = (line :: rest).length - 1 - start + 1 := by
        rw [List.length_cons] at inside ⊢
        omega
      rw [count]
  have before : (buffer.lines.take start).length = start := by
    unfold size at inside
    rw [List.length_take]
    omega
  unfold searchBackward searchForward mirrored
  dsimp only
  rw [lines, before, Option.map_map]
  congr 1
  funext count
  dsimp only [Function.comp]
  omega

/-- What a search backward finds is the greatest index before the start. -/
theorem isGreatest_of_searchBackward (inside : start ≤ buffer.size - 1)
    (found : buffer.searchBackward accepts start = some index)
    : IsGreatest {index | index < start ∧ index ∈ buffer.accepted accepts} index := by
  rw [searchBackward_eq_mirrored inside] at found
  obtain ⟨mirror, mirrorFound, rfl⟩ := Option.map_eq_some_iff.mp found
  obtain ⟨⟨behind, member⟩, least⟩ := isLeast_of_searchForward mirrorFound
  have bound : mirror < buffer.size := by simpa using lt_size_of_mem_accepted member
  have back : buffer.size - 1 - (buffer.size - 1 - mirror) = mirror := by omega
  refine ⟨⟨by omega, (mem_accepted_mirrored_iff (by omega)).mp (back.symm ▸ member)⟩, ?_⟩
  rintro other ⟨before, accepted⟩
  have otherBound := lt_size_of_mem_accepted accepted
  have nearest : mirror ≤ buffer.size - 1 - other :=
    least ⟨by omega, (mem_accepted_mirrored_iff otherBound).mpr accepted⟩
  omega

/-- A search backward that finds nothing has looked at every line before the start. -/
theorem not_accepted_of_searchBackward (inside : start ≤ buffer.size - 1)
    (missed : buffer.searchBackward accepts start = none) (before : index < start)
    : index ∉ buffer.accepted accepts := by
  rw [searchBackward_eq_mirrored inside] at missed
  have mirrored := not_accepted_of_searchForward (Option.map_eq_none_iff.mp missed)
    (show buffer.size - 1 - start < buffer.size - 1 - index by omega)
  exact mt (mem_accepted_mirrored_iff (by omega)).mpr mirrored

/-- A search backward finds a line exactly if the search forward through the lines in reverse, from
the mirrored start, finds the mirrored line.
-/
theorem searchBackward_eq_some_iff_mirrored (inside : start ≤ buffer.size - 1)
    : buffer.searchBackward accepts start = some index
      ↔ buffer.mirrored.searchForward accepts (buffer.size - 1 - start)
        = some (buffer.size - 1 - index) := by
  rw [searchBackward_eq_mirrored inside, Option.map_eq_some_iff]
  constructor
  · rintro ⟨mirror, found, rfl⟩
    have bound := lt_size_of_mem_accepted (isLeast_of_searchForward found).1.2
    rw [mirrored_size] at bound
    rw [found, Option.some_inj]
    omega
  · intro found
    have behind := (isLeast_of_searchForward found).1.1
    exact ⟨_, found, by omega⟩

end LineEditor.Buffer
