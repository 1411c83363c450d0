import LineEditor.Command.Basic

/-! Ranges that have been checked against a buffer. A command line that can be read has a range
in order and inside the buffer, where an empty buffer has the range of index zero.
-/

namespace LineEditor

/-- The range is in order, and its lines are lines of the buffer; the range of index zero counts
for a buffer without lines.
-/
structure Buffer.HasRange (buffer : Buffer) (range : LineRange) : Prop where
  ordered : range.first ≤ range.last
  inside : range.last ≤ buffer.size - 1

/-- The lines of such a range are there if there are any lines. -/
theorem Buffer.HasRange.last_lt {buffer : Buffer} {range : LineRange}
    (has : buffer.HasRange range) (some : ¬ buffer.isEmpty = true)
    : range.last < buffer.size := by
  have inside := has.inside
  rw [isEmpty_eq_true_iff] at some
  omega

/-- The check admits ranges of the buffer only. -/
theorem Buffer.hasRange_of_checkRange {buffer : Buffer} {first last : Int} {range : LineRange}
    (checked : buffer.checkRange first last = .ok range)
    : buffer.HasRange range := by
  unfold checkRange at checked
  split at checked
  · cases checked
  · next admitted =>
      cases checked
      simp only [Bool.or_eq_true, decide_eq_true_eq, not_or] at admitted
      unfold lastIndex at admitted
      constructor <;> dsimp only <;> omega

/-- Two ends that name lines in order pass the check. -/
theorem Buffer.checkRange_of_le {buffer : Buffer} {first last : Nat} (ordered : first ≤ last)
    (inside : last ≤ buffer.size - 1)
    : buffer.checkRange first last = .ok ⟨first, last⟩ := by
  unfold checkRange
  rw [if_neg]
  · simp
  · simp only [Bool.or_eq_true, decide_eq_true_eq, not_or]
    unfold lastIndex
    omega

namespace Context

variable {context : Context} {line : String} {command : Command} {memory : Memory}

/-- The range that a command line works on is one of the buffer: the whole of it, or one that was
checked.
-/
theorem hasRange_of_commandRange {addresses : Addresses} {range : LineRange}
    (found : context.commandRange addresses = .ok range)
    : context.buffer.HasRange range := by
  unfold commandRange at found
  split at found
  · split at found
    · cases found
    · cases found
      exact ⟨Nat.zero_le _, Nat.le_refl _⟩
  · exact Buffer.hasRange_of_checkRange found

/-- What a command line that can be read consists of: addresses, a range that they stand for and
an operation behind them.
-/
structure ReadsAs (context : Context) (line : String) (addresses : Addresses)
    (command : Command) (memory : Memory)
    : Prop where
  range : context.commandRange addresses = .ok command.range
  parts
    : ∃ between rest,
        context.readRange line.toList = (.ok addresses, between)
        ∧ (context.withMemory between).readOperation addresses.rest
          = (.ok (command.operation, rest), memory)

/-- Reading a command line reads its addresses, finds their range and reads its operation. -/
theorem readsAs_of_readCommand (read : context.readCommand line = (.ok command, memory))
    : ∃ addresses, context.ReadsAs line addresses command memory := by
  unfold readCommand at read
  cases front : context.readRange line.toList with
  | mk result between =>
      cases result with
      | error error => simp [front] at read
      | ok addresses =>
          cases range : context.commandRange addresses with
          | error error => simp [front, range] at read
          | ok range =>
              cases back : (context.withMemory between).readOperation addresses.rest with
              | mk result after =>
                  cases result with
                  | error error => simp [front, range, back] at read
                  | ok found =>
                      obtain ⟨operation, rest⟩ := found
                      simp only [front, range, back, Prod.mk.injEq, Except.ok.injEq] at read
                      obtain ⟨rfl, rfl⟩ := read
                      exact ⟨addresses, range, between, rest, front, back⟩

/-- A command line that can be read has a range of the buffer. -/
theorem hasRange_of_readCommand (read : context.readCommand line = (.ok command, memory))
    : context.buffer.HasRange command.range := by
  obtain ⟨addresses, reads⟩ := readsAs_of_readCommand read
  exact hasRange_of_commandRange reads.range

end Context

end LineEditor
