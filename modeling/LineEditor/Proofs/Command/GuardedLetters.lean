import LineEditor.Proofs.Buffer.Edits
import LineEditor.Proofs.Command.CheckedRanges

/-! Command letters that are guarded by the mark of unsaved changes. Leaving and reading a file
would lose the lines of the buffer, so that both are refused while there are unsaved changes.
-/

namespace LineEditor

/-- The letter asks before it gives up the lines of the buffer. -/
def IsGuardedLetter (letter : Char) : Prop := letter = 'q' ∨ letter = 'r'

namespace Context

variable {context : Context} {line : String} {letter : Char} {text : List Char}

/-- The letter of a command line: the character behind its addresses. Where the addresses cannot
be read, and where nothing stands behind them, there is none.
-/
def operationLetter? (context : Context) (line : String) : Option Char :=
  match (context.readRange line.toList).1 with
  | .ok addresses => addresses.rest.head?
  | .error _ => none

/-- A guarded letter is accepted in a buffer without unsaved changes only. A file name that is
missing or badly written is refused before the mark is looked at.
-/
theorem clean_of_readOperation {operation : Operation} {rest : List Char} {memory : Memory}
    (guarded : IsGuardedLetter letter)
    (read : context.readOperation (letter :: text) = (.ok (operation, rest), memory))
    : context.buffer.dirty = false := by
  rcases guarded with rfl | rfl
  · rw [readOperation_of_simple (by decide)] at read
    cases dirty : context.buffer.dirty with
    | false => rfl
    | true => simp [readSimple, dirty] at read
  · rw [readOperation_of_simple (by decide)] at read
    cases dirty : context.buffer.dirty with
    | false => rfl
    | true =>
        cases argument : context.buffer.fileArgument 'r' text with
        | error error => simp [readSimple, argument] at read
        | ok path => simp [readSimple, argument, dirty] at read

/-- A command line with a guarded letter is read in a buffer without unsaved changes only, since
reading the addresses leaves the buffer.
-/
theorem clean_of_readCommand {command : Command} (guarded : IsGuardedLetter letter)
    (found : context.operationLetter? line = some letter)
    (read : (context.readCommand line).1 = .ok command)
    : context.buffer.dirty = false := by
  have whole : context.readCommand line = (.ok command, (context.readCommand line).2) :=
    Prod.ext read rfl
  obtain ⟨addresses, reads⟩ := readsAs_of_readCommand whole
  obtain ⟨between, rest, front, back⟩ := reads.parts
  have head : addresses.rest.head? = some letter := by
    simpa only [operationLetter?, front] using found
  obtain ⟨text, written⟩ := List.head?_eq_some_iff.mp head
  rw [written] at back
  show (context.withMemory between).buffer.dirty = false
  exact clean_of_readOperation guarded back

/-- The line that leaves is accepted wherever the current line is valid and there are no unsaved
changes: its range is the current line.
-/
theorem readCommand_quit (valid : context.buffer.DotValid)
    (clean : context.buffer.dirty = false)
    : context.readCommand "q" = (.ok ⟨.single context.buffer.dot, .quit⟩, context.memory) := by
  have front
      : context.readRange "q".toList
        = (.ok ⟨context.buffer.dot, context.buffer.dot, false, ['q']⟩, context.memory) := by
    simp [readRange, readAddress, Buffer.readPlainAddress]
  have range
      : context.commandRange ⟨context.buffer.dot, context.buffer.dot, false, ['q']⟩
        = .ok (.single context.buffer.dot) := by
    simpa [commandRange, LineRange.single]
      using Buffer.checkRange_of_le (Nat.le_refl context.buffer.dot) valid
  have back
      : (context.withMemory context.memory).readOperation ['q']
        = (.ok (.quit, []), context.memory) := by
    rw [readOperation_of_simple (by decide)]
    simp [readSimple, withMemory, clean]
  simp only [readCommand, front, range, back]

end Context

end LineEditor
