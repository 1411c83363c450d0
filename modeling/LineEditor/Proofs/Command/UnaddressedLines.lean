import LineEditor.Proofs.Buffer.Edits
import LineEditor.Proofs.Command.CheckedRanges

/-! Command lines without an address. A line whose first character starts no address has the
current line as both ends of its range, and the check of the range admits a valid current line.
A global command without an address and any command behind a lone comma have the whole buffer.
-/

namespace LineEditor

/-- The range of all lines of a buffer. -/
def Buffer.wholeRange (buffer : Buffer) : LineRange :=
  ⟨0, buffer.size - 1⟩

/-- An operation that was read, as a command on a range that was found before. -/
def Recalled.onRange (range : LineRange) (read : Recalled (Operation × List Char))
    : Recalled Command :=
  match read with
  | (.ok (operation, _), memory) => (.ok ⟨range, operation⟩, memory)
  | (.error error, memory) => (.error error, memory)

/-- The letters of the operations. -/
def operationLetters : List Char :=
  ['p', 'n', 'd', 's', 'a', 'i', 'c', 'm', 'g', 'v', 'r', 'w', 'q', 'Q']

/-- An address can start with the character. -/
def startsAddress (c : Char) : Bool :=
  c ∈ ['/', '?', '^', '$', '.', ',', '+', '-'] || c.isDigit

/-- No operation has a letter that an address starts with. -/
theorem startsAddress_of_mem_operationLetters
    : ∀ letter ∈ operationLetters, startsAddress letter = false := by
  simp [operationLetters, startsAddress]

/-- The current line passes the check if it is valid. -/
theorem Buffer.DotValid.checkRange {buffer : Buffer} (valid : buffer.DotValid)
    : buffer.checkRange buffer.dot buffer.dot = .ok (.single buffer.dot) :=
  checkRange_of_le (Nat.le_refl buffer.dot) valid

namespace Context

variable {context : Context} {c : Char} {text : List Char}

/-- No address is read where none starts. -/
theorem readAddress_of_not_startsAddress (slot : Slot) (none : startsAddress c = false)
    : context.readAddress slot (c :: text) = (.ok (Option.none, c :: text), context.memory) := by
  simp only [startsAddress, Bool.or_eq_false_iff, decide_eq_false_iff_not, List.mem_cons, not_or]
    at none
  obtain ⟨others, digit⟩ := none
  unfold readAddress Buffer.readPlainAddress
  simp [others, digit]

/-- Without an address both ends of the range are the current line. -/
theorem readRange_of_not_startsAddress (none : startsAddress c = false)
    : context.readRange (c :: text)
      = (.ok ⟨context.buffer.dot, context.buffer.dot, false, c :: text⟩, context.memory) := by
  have comma : c ≠ ',' := by
    rintro rfl
    simp [startsAddress] at none
  simp [readRange, readAddress_of_not_startsAddress .first none, comma]

/-- A letter other than those of the global commands works on the current line. -/
theorem commandRange_of_letter (valid : context.buffer.DotValid)
    (simple : ¬ (c = 'g' ∨ c = 'v'))
    : context.commandRange ⟨context.buffer.dot, context.buffer.dot, false, c :: text⟩
      = .ok (.single context.buffer.dot) := by
  rw [← valid.checkRange]
  simp only [commandRange, List.head?_cons, Option.any_some]
  simp [not_or.mp simple]

/-- A line whose addresses stand for a range is read as its operation on that range. -/
theorem readCommand_of_commandRange {line : String} {addresses : Addresses} {range : LineRange}
    {memory : Memory} (starts : line.toList = text)
    (front : context.readRange text = (.ok addresses, memory))
    (found : context.commandRange addresses = .ok range)
    : context.readCommand line
      = ((context.withMemory memory).readOperation addresses.rest).onRange range := by
  simp only [readCommand, starts, front, found]
  rcases (context.withMemory memory).readOperation addresses.rest with ⟨_ | ⟨_, _⟩, _⟩ <;> rfl

/-- A line without an address is read as its operation on the current line. -/
theorem readCommand_of_letter {line : String} (valid : context.buffer.DotValid)
    (starts : line.toList = c :: text) (none : startsAddress c = false)
    (simple : ¬ (c = 'g' ∨ c = 'v'))
    : context.readCommand line
      = (context.readOperation (c :: text)).onRange (.single context.buffer.dot) := by
  exact readCommand_of_commandRange starts (readRange_of_not_startsAddress none)
    (commandRange_of_letter valid simple)

/-- A global command without an address is read as its operation on the whole buffer. -/
theorem readCommand_of_global {line : String} (filled : ¬ context.buffer.isEmpty = true)
    (starts : line.toList = c :: text) (global : c = 'g' ∨ c = 'v')
    : context.readCommand line
      = (context.readOperation (c :: text)).onRange context.buffer.wholeRange := by
  have none : startsAddress c = false := by
    rcases global with rfl | rfl <;> decide
  have range
      : context.commandRange ⟨context.buffer.dot, context.buffer.dot, false, c :: text⟩
        = .ok context.buffer.wholeRange := by
    rcases global with rfl | rfl <;> exact if_neg filled
  exact readCommand_of_commandRange starts (readRange_of_not_startsAddress none) range

/-- A line behind a lone comma is read as its operation on the whole buffer. -/
theorem readCommand_of_comma {line : String} (filled : ¬ context.buffer.isEmpty = true)
    (starts : line.toList = ',' :: c :: text) (none : startsAddress c = false)
    : context.readCommand line
      = (context.readOperation (c :: text)).onRange context.buffer.wholeRange := by
  have front
      : context.readRange (',' :: c :: text)
        = (.ok ⟨0, context.buffer.lastIndex, true, c :: text⟩, context.memory) := by
    have second
        : (context.withMemory context.memory).readAddress (.second 0) (c :: text)
          = (.ok (Option.none, c :: text), context.memory) :=
      readAddress_of_not_startsAddress (.second 0) none
    have first
        : context.readAddress .first (',' :: c :: text)
          = (.ok (some 0, ',' :: c :: text), context.memory) :=
      rfl
    simp only [readRange, first, readSecond, Option.getD_some, second]
    rfl
  have range
      : context.commandRange ⟨0, context.buffer.lastIndex, true, c :: text⟩
        = .ok context.buffer.wholeRange := by
    have last : context.buffer.lastIndex = (context.buffer.size - 1 : Nat) := by
      rw [Buffer.isEmpty_eq_true_iff] at filled
      unfold Buffer.lastIndex
      omega
    show context.buffer.checkRange 0 context.buffer.lastIndex = _
    rw [last]
    exact Buffer.checkRange_of_le (Nat.zero_le _) (Nat.le_refl _)
  exact readCommand_of_commandRange starts front range

end Context

end LineEditor
