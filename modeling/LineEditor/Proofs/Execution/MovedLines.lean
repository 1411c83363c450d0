import LineEditor.Execution.Plan
import LineEditor.Proofs.Buffer.Splices

/-! Moves. A block of lines is taken out and put back as it is behind a line outside of it, the
other lines keep their order, and moving the block to where it was brings all lines back.
-/

namespace LineEditor

----------------------------------------------------------------------------------------
-- Blocks in other places
----------------------------------------------------------------------------------------

/-- Lines before and after a block of them, which starts at an index, is moved behind the line at a
destination, or before all lines where the destination is −1. The block passes the lines that lie
between, and neither these nor the ones in front or back change their order.
-/
inductive Relocates (block : List String) (start : Nat) (destination : Int)
    : List String → List String → Prop
  | down {front passed back : List String} (some : passed ≠ []) (starts : start = front.length)
    (behind : destination + 1 = (front ++ block ++ passed).length)
    : Relocates block start destination
        (front ++ block ++ passed ++ back) (front ++ passed ++ block ++ back)
  | up {front passed back : List String} (starts : start = (front ++ passed).length)
    (behind : destination + 1 = front.length)
    : Relocates block start destination
        (front ++ passed ++ block ++ back) (front ++ block ++ passed ++ back)

namespace LineRange

variable (range : LineRange) (destination : Int)

/-- The index that the last line of a range gets when the range is moved. -/
def landing : Nat :=
  if range.last < destination then destination.toNat else (destination + range.size).toNat

/-- Where the lines of a range lie when the range is moved. -/
def moved : LineRange :=
  ⟨range.landing destination + 1 - range.size, range.landing destination⟩

/-- The destination that brings the lines of a range back when the range is moved. -/
def origin : Int :=
  if range.last < destination then range.first - 1 else range.last

variable {range destination}

/-- Moving a range brings it to a place that has room for it. -/
theorem moved_last (ordered : range.first ≤ range.last) (least : -1 ≤ destination)
    : (range.moved destination).last + 1 = (range.moved destination).first + range.size := by
  have room : range.size ≤ range.landing destination + 1 := by
    unfold landing size
    split <;> omega
  simp only [moved]
  omega

/-- Moved back, a range ends where it did. -/
theorem landing_moved (ordered : range.first ≤ range.last) (least : -1 ≤ destination)
    (outside : destination < range.first ∨ range.last < destination)
    (apart : destination ≠ range.first - 1)
    : (range.moved destination).landing (range.origin destination) = range.last := by
  rcases outside with above | below
  · have stays : ¬ (range.last : Int) < destination := by omega
    have ends : (range.moved destination).last = (destination + range.size).toNat := if_neg stays
    have back : range.origin destination = range.last := if_neg stays
    rw [size] at ends
    rw [landing, back, ends, if_pos (by omega), Int.toNat_natCast]
  · have place := moved_last ordered least
    have ends : (range.moved destination).last = destination.toNat := if_pos below
    have back : range.origin destination = range.first - 1 := if_pos below
    rw [size] at place
    rw [landing, back, ends, if_neg (by omega), size, ends]
    omega

end LineRange

/-- Whichever way a block goes, it is put between two parts of the lines that are left without it.
The first part ends with the line at the destination, so that the index of the destination also
counts the lines of the block where these came before.
-/
theorem Relocates.parts {block before after : List String} {start : Nat} {destination : Int}
    (relocates : Relocates block start destination before after)
    : ∃ ahead behind front back,
        before = ahead ++ block ++ behind
        ∧ ahead.length = start
        ∧ after = front ++ block ++ back
        ∧ ahead ++ behind = front ++ back
        ∧ (destination + 1 = front.length ∧ front.length ≤ start
          ∨ destination + 1 = front.length + block.length ∧ start < front.length) := by
  cases relocates with
  | @down front passed back some starts place =>
      have passes : 0 < passed.length := List.length_pos_iff.mpr some
      simp only [List.length_append] at place
      refine ⟨front, passed ++ back, front ++ passed, back, ?_, starts.symm, rfl, ?_, .inr ?_⟩
      · rw [List.append_assoc _ passed]
      · rw [List.append_assoc]
      · rw [List.length_append]
        omega
  | @up front passed back starts place =>
      rw [List.length_append] at starts
      refine ⟨front ++ passed, back, front, passed ++ back, rfl, ?_, ?_, ?_, .inl ?_⟩
      · rw [List.length_append, starts]
      · rw [List.append_assoc _ passed]
      · rw [List.append_assoc]
      · omega

/-- A block that was moved is put back by moving it the other way, unless it stayed in its place. -/
theorem Relocates.back {range : LineRange} {destination : Int} {block before after : List String}
    (relocates : Relocates block range.first destination before after) (some : block ≠ [])
    (last : range.last + 1 = range.first + block.length) (apart : destination ≠ range.first - 1)
    : Relocates block (range.moved destination).first (range.origin destination) after before := by
  have count : 0 < block.length := List.length_pos_iff.mpr some
  have size : range.size = block.length := by
    rw [LineRange.size]
    omega
  cases relocates with
  | @down front passed back some starts behind =>
      have passes : 0 < passed.length := List.length_pos_iff.mpr some
      simp only [List.length_append] at behind
      have below : (range.last : Int) < destination := by omega
      unfold LineRange.moved LineRange.landing LineRange.origin
      rw [if_pos below, if_pos below, size]
      refine .up ?_ ?_
      · simp only [List.length_append]
        omega
      · omega
  | @up front passed back starts behind =>
      simp only [List.length_append] at starts
      have above : ¬ (range.last : Int) < destination := by omega
      unfold LineRange.moved LineRange.landing LineRange.origin
      rw [if_neg above, if_neg above, size]
      refine .down (List.length_pos_iff.mp ?_) ?_ ?_
      · omega
      · dsimp only
        omega
      · simp only [List.length_append]
        omega

----------------------------------------------------------------------------------------
-- Moves
----------------------------------------------------------------------------------------

namespace Buffer

/-- The destinations that a range can be moved to: the lines outside of it, and −1 for the place
before all lines.
-/
structure IsTarget (buffer : Buffer) (range : LineRange) (destination : Int) : Prop where
  least : -1 ≤ destination
  greatest : destination ≤ buffer.size - 1
  outside : destination < range.first ∨ range.last < destination

variable {buffer : Buffer} {range : LineRange} {destination : Int}
  {before block behind front back lines : List String}

/-- The lines of a range are put in their new place among the lines that are left, if the destination
is one of the range.
-/
theorem moveLines_eq (has : buffer.HasRange range) (filled : ¬ buffer.isEmpty = true)
    (destination : Int) [Decidable (buffer.IsTarget range destination)]
    : buffer.moveLines range destination
      = if buffer.IsTarget range destination then
          {
            buffer :=
              ((buffer.delete range).insert (range.moved destination).first
                (buffer.slice range)).setDot (range.landing destination)
          }
        else buffer.refuse .badMoveTarget := by
  have refused
      : (decide (destination < -1) || decide (destination > buffer.lastIndex)
          || (decide ((range.first : Int) ≤ destination) && decide (destination ≤ range.last)))
        = true
        ↔ ¬ buffer.IsTarget range destination := by
    simp only [Bool.or_eq_true, Bool.and_eq_true, decide_eq_true_eq]
    unfold lastIndex
    constructor
    · rintro outside ⟨least, greatest, apart⟩
      omega
    · intro refused
      refine Decidable.byContradiction fun admitted => refused ⟨?_, ?_, ?_⟩
      all_goals omega
  unfold moveLines
  simp only [if_neg filled, refused, ite_not, has.length_slice filled]
  split
  · next target =>
      obtain ⟨least, greatest, apart⟩ := target
      have ordered := has.ordered
      have index
          : ((if destination > range.last then destination - range.size else destination) + 1).toNat
            = (range.moved destination).first := by
        unfold LineRange.moved LineRange.landing LineRange.size
        dsimp only
        split <;> omega
      have dot : (range.moved destination).first + range.size - 1 = range.landing destination := by
        unfold LineRange.moved LineRange.landing LineRange.size
        dsimp only
        split <;> omega
      rw [index, dot]
  · rfl

/-- A move takes a block out and puts it between two parts of the lines that are left. -/
theorem moveLines_of_cut (cut : buffer.Cut range before block behind) (some : block ≠ [])
    (target : buffer.IsTarget range destination) (left : before ++ behind = front ++ back)
    (place : range.landing destination + 1 = (front ++ block).length)
    : buffer.moveLines range destination
      = {
        buffer := {
          buffer with
          lines := front ++ block ++ back
          dot := range.landing destination
          dirty := true
        }
      } := by
  classical
  have count : 0 < block.length := List.length_pos_iff.mpr some
  rw [List.length_append] at place
  have filled : ¬ buffer.isEmpty = true := by
    rw [isEmpty_eq_true_iff, cut.size]
    omega
  have first : (range.moved destination).first = front.length := by
    simp only [LineRange.moved, cut.range_size some]
    omega
  have lines
      : ((buffer.delete range).insert front.length block).lines = front ++ block ++ back :=
    insert_lines_of_append (cut.delete_lines.trans left)
  rw [moveLines_eq (cut.hasRange some) filled, if_pos target, cut.slice some, first]
  congr 1
  ext1
  · exact lines
  · rw [setDot_dot, Buffer.size, lines]
    simp only [List.length_append]
    omega
  · show ((buffer.delete range).insert front.length block).dirty = true
    simp
  · simp

/-- What is relocated are the lines of the range. -/
theorem cut_of_relocates (relocates : Relocates block range.first destination buffer.lines lines)
    (last : range.last + 1 = range.first + block.length)
    : ∃ before behind, buffer.Cut range before block behind := by
  obtain ⟨before, behind, front, back, found, start, -⟩ := relocates.parts
  exact ⟨before, behind, found, start.symm, by rw [last, start]⟩

/-- A move of some lines of the buffer relocates them. -/
theorem moveLines_of_relocates (some : block ≠ [])
    (relocates : Relocates block range.first destination buffer.lines lines)
    (last : range.last + 1 = range.first + block.length)
    : buffer.moveLines range destination
      = {
        buffer := {
          buffer with
          lines := lines
          dot := range.landing destination
          dirty := true
        }
      } := by
  obtain ⟨before, behind, front, back, found, start, put, left, place⟩ := relocates.parts
  have cut : buffer.Cut range before block behind := ⟨found, start.symm, by rw [last, start]⟩
  have size := cut.size
  have rest := congrArg List.length left
  have count : 0 < block.length := List.length_pos_iff.mpr some
  simp only [List.length_append] at rest
  have target : buffer.IsTarget range destination := by
    constructor <;> omega
  have landing : range.landing destination + 1 = (front ++ block).length := by
    rw [LineRange.landing, cut.range_size some, List.length_append]
    split <;> omega
  rw [put]
  exact moveLines_of_cut cut some target left landing

/-- A range of the buffer can be relocated to any of its destinations: the lines before it or those
behind it are cut at the destination.
-/
theorem exists_relocates (has : buffer.HasRange range) (filled : ¬ buffer.isEmpty = true)
    (target : buffer.IsTarget range destination)
    : ∃ lines, Relocates (buffer.slice range) range.first destination buffer.lines lines := by
  obtain ⟨least, greatest, outside⟩ := target
  have cut := has.cut filled
  have start := cut.first
  have size := cut.size
  have last := cut.last
  rw [cut.lines]
  generalize buffer.lines.take range.first = before at *
  generalize buffer.lines.drop (range.last + 1) = behind at *
  rcases outside with above | below
  · have parts := List.take_append_drop (destination + 1).toNat before
    have upTo : (before.take (destination + 1).toNat).length = (destination + 1).toNat := by
      rw [List.length_take]
      omega
    rw [← parts] at start ⊢
    exact ⟨_, .up start (by omega)⟩
  · have parts := List.take_append_drop (destination - range.last).toNat behind
    have between
        : (behind.take (destination - range.last).toNat).length
          = (destination - range.last).toNat := by
      rw [List.length_take]
      omega
    rw [← parts, ← List.append_assoc]
    refine ⟨_, .down (List.length_pos_iff.mp (by omega)) start ?_⟩
    rw [List.length_append, List.length_append]
    omega

/-- Moving a range of lines is refused and changes nothing if the destination lies in the range or
outside of the buffer. Otherwise the block of the lines is relocated as a whole behind the line at
the destination, its last line becomes current, there are unsaved changes and the file keeps its
name. Unless the block stays where it is, the range that it lies in then can be moved back to where
it was, and all lines are in their places again.
-/
theorem moveLines_relocates (has : buffer.HasRange range) (filled : ¬ buffer.isEmpty = true)
    (destination : Int)
    : (¬ buffer.IsTarget range destination
        → buffer.moveLines range destination = buffer.refuse .badMoveTarget)
      ∧ (buffer.IsTarget range destination
        → ∃ lines,
            Relocates (buffer.slice range) range.first destination buffer.lines lines
            ∧ buffer.moveLines range destination
              = {
                buffer := {
                  buffer with
                  lines := lines
                  dot := range.landing destination
                  dirty := true
                }
              }
            ∧ (destination ≠ range.first - 1
              → let moved := (buffer.moveLines range destination).buffer
                moved.slice (range.moved destination) = buffer.slice range
                ∧ moved.moveLines (range.moved destination) (range.origin destination)
                  = { buffer := { buffer with dot := range.last, dirty := true } })) := by
  classical
  refine ⟨fun refused => (moveLines_eq has filled destination).trans (if_neg refused), ?_⟩
  intro target
  have ordered := has.ordered
  have count := has.length_slice filled
  have some : buffer.slice range ≠ [] :=
    List.length_pos_iff.mp (count ▸ Nat.succ_pos _)
  have last : range.last + 1 = range.first + (buffer.slice range).length := by
    rw [count, LineRange.size]
    omega
  have place := LineRange.moved_last ordered target.least
  rw [← count] at place
  obtain ⟨lines, relocates⟩ := exists_relocates has filled target
  have there := moveLines_of_relocates some relocates last
  refine ⟨lines, relocates, there, ?_⟩
  intro apart
  let after : Buffer :=
    { buffer with lines := lines, dot := range.landing destination, dirty := true }
  have back
      : Relocates (buffer.slice range) (range.moved destination).first (range.origin destination)
          after.lines buffer.lines :=
    relocates.back some last apart
  obtain ⟨before, behind, cut⟩ := cut_of_relocates back place
  have landing := LineRange.landing_moved ordered target.least target.outside apart
  rw [there]
  exact ⟨cut.slice some, (moveLines_of_relocates some back place).trans (by rw [landing])⟩

/-- Two lines of four are moved to the end and back behind the first. -/
theorem moveLines_relocates_to_end
    : Relocates ["b", "c"] 1 3 ["a", "b", "c", "d"] ["a", "d", "b", "c"]
      ∧ Buffer.moveLines { lines := ["a", "d", "b", "c"], dot := 3, dirty := true } ⟨2, 3⟩ 0
        = { buffer := { lines := ["a", "b", "c", "d"], dot := 2, dirty := true } } := by
  let buffer := Buffer.ofLines ["a", "b", "c", "d"]
  have has : buffer.HasRange ⟨1, 2⟩ := by
    constructor <;> decide
  have target : buffer.IsTarget ⟨1, 2⟩ 3 := by
    constructor <;> decide
  have moved
      : buffer.moveLines ⟨1, 2⟩ 3
        = { buffer := { lines := ["a", "d", "b", "c"], dot := 3, dirty := true } } := by
    rfl
  obtain ⟨lines, relocates, there, back⟩ := (moveLines_relocates has (by decide) 3).2 target
  have same : lines = ["a", "d", "b", "c"] :=
    congrArg (fun change : Change => change.buffer.lines) (there.symm.trans moved)
  rw [same] at relocates
  rw [moved] at back
  exact ⟨relocates, (back (by decide)).2⟩

end Buffer

end LineEditor
