import LineEditor.Proofs.Command.UnaddressedLines
import LineEditor.Proofs.Session.FailedLines

/-! The current line of a session. However the buffer was built, and whatever was opened and run on
it, the current line is one of its lines; so a line without an address always has a range, and the
line that leaves without asking always leaves.
-/

namespace LineEditor

/-- A valid current line is a line of the buffer, and has index zero where there are none. -/
theorem Buffer.DotValid.bounds {buffer : Buffer} (valid : buffer.DotValid)
    : (0 < buffer.size → buffer.dot < buffer.size) ∧ (buffer.size = 0 → buffer.dot = 0) := by
  unfold DotValid at valid
  omega

/-- Opening a file leaves the current line valid, whether the file can be read or not. -/
theorem Buffer.dotValid_opened {buffer : Buffer} (path : String)
    (result : Except FileError Text.FileText) (valid : buffer.DotValid)
    : (buffer.opened path result).DotValid := by
  cases result with
  | ok text => exact buffer.dotValid_replaceAll text.lines
  | error error =>
      show (if buffer.filename.isNone then buffer.setFilename path else buffer).DotValid
      split
      · exact valid
      · exact valid

namespace Session

/-- The session comes from one with a buffer that was built in any way, by opening files and by
running command lines, well or badly ended. What surrounds its context may change in between.
-/
inductive Reached : Session → Prop
  | start {session} (built : session.context.buffer.Built) : Reached session
  | opened {session} (before : Reached session) (path : String) : Reached (session.open path)
  | ran {session} (before : Reached session) (line : String) : Reached (session.runLine line).2
  | around {session other} (before : Reached session) (same : other.context = session.context)
    : Reached other

variable {session : Session}

/-- The buffer after opening a file. -/
theorem open_buffer (session : Session) (path : String)
    : (session.open path).context.buffer
      = session.context.buffer.opened path (session.world.files.load path) := by
  unfold «open»
  dsimp only
  cases session.world.files.load path <;> rfl

/-- A command line keeps the current line valid. One that fails leaves the buffer, and a command
that goes well brings the current line to one of the buffer.
-/
theorem dotValid_runLine (line : String) (valid : session.context.buffer.DotValid)
    : (session.runLine line).2.context.buffer.DotValid := by
  cases failed : session.failure? line with
  | some error =>
      rw [runLine_of_failure failed]
      exact valid
  | none =>
      obtain ⟨command, change, world, outcome, runs⟩ := runs_of_failure?_eq_none failed
      rw [runs.ran]
      exact runs.ends.dotValid valid

/-- The current line is valid in every session reached, by induction on how it is reached. -/
theorem Reached.dotValid (reached : session.Reached) : session.context.buffer.DotValid := by
  induction reached with
  | start built => exact built.dotValid
  | opened _ path ih =>
      rw [open_buffer]
      exact Buffer.dotValid_opened path _ ih
  | ran _ line ih => exact dotValid_runLine line ih
  | around _ same ih =>
      rw [same]
      exact ih

/-- The line that leaves without asking quits and leaves the buffer, with unsaved changes or
without them.
-/
theorem runLine_leave (valid : session.context.buffer.DotValid)
    : (session.runLine "Q").1 = .quit
      ∧ (session.runLine "Q").2.context.buffer = session.context.buffer := by
  have read
      : session.context.readCommand "Q"
        = (.ok ⟨.single session.context.buffer.dot, .quit⟩, session.context.memory) := by
    have starts : "Q".toList = ['Q'] := rfl
    rw [Context.readCommand_of_letter valid starts (by decide) (by decide),
      Context.readOperation_of_simple (by decide)]
    rfl
  rw [runLine_of_read read]
  exact ⟨rfl, rfl⟩

/-- However a buffer was built its current line is one of its lines, or has index zero where there
are none; and so it is in every session reached. There the range of the current line alone
passes the check, a line that starts with the letter of any operation but a global command is
read on that range, and the line that leaves without asking does so and leaves the buffer.
-/
theorem current_line_valid
    : (∀ buffer : Buffer,
        buffer.Built
        → (0 < buffer.size → buffer.dot < buffer.size) ∧ (buffer.size = 0 → buffer.dot = 0))
      ∧ ∀ session : Session,
        session.Reached
        → (0 < session.context.buffer.size
            → session.context.buffer.dot < session.context.buffer.size)
          ∧ (session.context.buffer.size = 0 → session.context.buffer.dot = 0)
          ∧ session.context.buffer.checkRange session.context.buffer.dot
              session.context.buffer.dot
            = .ok (.single session.context.buffer.dot)
          ∧ (∀ (line : String) letter text,
              line.toList = letter :: text
              → letter ∈ operationLetters
              → ¬ (letter = 'g' ∨ letter = 'v')
              → ∃ addresses,
                session.context.readRange line.toList
                  = (.ok addresses, session.context.memory)
                ∧ addresses.rest = line.toList
                ∧ session.context.commandRange addresses
                  = .ok (.single session.context.buffer.dot))
          ∧ (session.runLine "Q").1 = .quit
          ∧ (session.runLine "Q").2.context.buffer = session.context.buffer := by
  refine ⟨fun buffer built => built.dotValid.bounds, ?_⟩
  intro session reached
  have valid := reached.dotValid
  refine ⟨valid.bounds.1, valid.bounds.2, valid.checkRange, ?_, runLine_leave valid⟩
  intro line letter text starts operation simple
  have none := startsAddress_of_mem_operationLetters letter operation
  rw [starts]
  exact ⟨_, Context.readRange_of_not_startsAddress none, rfl,
    Context.commandRange_of_letter valid simple⟩

/-- All lines are deleted and two are typed in. With no line left the current line has index zero,
which a line without an address may still ask for; behind the text it is the second line.
-/
theorem current_line_valid_refilled
    : ∃ emptied refilled : Session,
        emptied.Reached
        ∧ refilled.Reached
        ∧ emptied.context.buffer.size = 0
        ∧ emptied.context.buffer.dot = 0
        ∧ emptied.context.buffer.checkRange 0 0 = .ok (.single 0)
        ∧ (refilled.runLine "Q").1 = .quit
        ∧ refilled.context.buffer = { lines := ["c", "d"], dot := 1, dirty := true } := by
  let start : Session := {
    context := { buffer := .ofLines ["a", "b"] }
    world := ⟨.ofLines ["c", "d", "."], {}⟩
  }
  have emptied : (start.runLine ",d").2.Reached :=
    .ran (.start (Buffer.built_ofLines ["a", "b"])) ",d"
  have refilled : ((start.runLine ",d").2.runLine "a").2.Reached := .ran emptied "a"
  have size : (start.runLine ",d").2.context.buffer.size = 0 := by decide +kernel
  have facts := current_line_valid.2 _ emptied
  have dot := facts.2.1 size
  have range := facts.2.2.1
  rw [dot] at range
  have leaves := (current_line_valid.2 _ refilled).2.2.2.2.1
  exact ⟨_, _, emptied, refilled, size, dot, range, leaves, by decide +kernel⟩

end Session

end LineEditor
