import LineEditor.Proofs.Command.RememberedSearches
import LineEditor.Proofs.Session.FailedLines

/-! Reading and running apart. Reading a command changes the memory only and running one the buffer
only, so that a command line has the memory that reading leaves and the buffer that running leaves.
-/

namespace LineEditor

namespace Session

variable {session : Session} {line : String} {command : Command}

/-- Running a command changes the buffer at most, whether it goes well or fails. -/
theorem runCommand_context (session : Session) (command : Command)
    : (session.runCommand command).2.context
      = { session.context with
          buffer := ((command.plan session.context.buffer).run session.world).1.buffer } := by
  rcases ran : (command.plan session.context.buffer).run session.world with ⟨change, world⟩
  cases result : change.result with
  | error error =>
      rw [runCommand_of_error session ran result]
      rfl
  | ok outcome =>
      rw [runCommand_of_ok session ran result]
      rfl

theorem runLine_context (session : Session) (line : String)
    : (session.runLine line).2.context
      = { session.context with
          memory := (session.context.readCommand line).2
          buffer :=
            match (session.context.readCommand line).1 with
            | .ok command => ((command.plan session.context.buffer).run session.world).1.buffer
            | .error _ => session.context.buffer } := by
  rcases read : session.context.readCommand line with ⟨error | command, memory⟩
  · simp [runLine_of_unread read, report, afterReading, read, Context.withMemory]
  · rw [runLine_of_read read, runCommand_context]
    simp [afterReading, read, Context.withMemory]

/-- No reading changes the buffer or the rule for patterns, and a nested command is read with the
same ones as the command around it. No command changes the memory or the rule for patterns when it
is run, whether it goes well or fails; so a command line leaves the memory that reading it leaves.
A line that fails at an address or at its range leaves the last substitution, and its search
pattern is the one before or that of a search address of its own.
-/
theorem reading_and_running_apart (session : Session)
    : (∀ after,
        session.context.ReadStep after
        → after.buffer = session.context.buffer
          ∧ after.ignoreCase = session.context.ignoreCase)
      ∧ (∀ text inner rest,
          session.context.innermost text = some (inner, rest)
          → inner.buffer = session.context.buffer
            ∧ inner.ignoreCase = session.context.ignoreCase)
      ∧ (∀ command,
          (session.runCommand command).2.context.memory = session.context.memory
          ∧ (session.runCommand command).2.context.ignoreCase = session.context.ignoreCase)
      ∧ (∀ line,
          (session.runLine line).2.context.memory = (session.context.readCommand line).2
          ∧ (session.runLine line).2.context.ignoreCase = session.context.ignoreCase
          ∧ ∀ error,
              (session.context.readCommand line).1 = .error error
              → (session.runLine line).2.context.buffer = session.context.buffer)
      ∧ ∀ (line : String) error,
          session.context.FailsAtAddress line.toList error
          → (session.context.readCommand line).1 = .error error
            ∧ (session.context.readCommand line).2.replacement
              = session.context.memory.replacement
            ∧ (session.context.readCommand line).2.options = session.context.memory.options
            ∧ ((session.context.readCommand line).2.search = session.context.memory.search
              ∨ ∃ pattern,
                  (session.context.readCommand line).2.search = some pattern
                  ∧ session.context.Searches line.toList pattern) := by
  refine ⟨?_, ?_, ?_, ?_, ?_⟩
  · intro after step
    cases step <;> exact ⟨rfl, rfl⟩
  · intro text inner rest found
    obtain ⟨buffer, ignoreCase, _⟩ := Context.innermost_context found
    exact ⟨buffer, ignoreCase⟩
  · intro command
    rw [runCommand_context]
    exact ⟨rfl, rfl⟩
  · intro line
    rw [runLine_context]
    refine ⟨rfl, rfl, ?_⟩
    intro error unread
    simp only [unread]
  · intro line error fails
    obtain ⟨failed, same, search⟩ := fails.keeps
    exact ⟨failed, same.replacement, same.options, search⟩

/-- The first line of the range is searched for and found, and so is not the destination. The pattern
of the second search is remembered, and the last substitution is still there.
-/
theorem reading_and_running_apart_lost
    : ∃ session : Session,
        session.context.FailsAtAddress "/b/m/x/".toList .noMatch
        ∧ (session.context.readCommand "/b/m/x/").1 = .error .noMatch
        ∧ (session.runLine "/b/m/x/").2.context.memory.search.map Pattern.source = some "x"
        ∧ (session.runLine "/b/m/x/").2.context.memory.replacement = some "r"
        ∧ (session.runLine "/b/m/x/").2.context.buffer = session.context.buffer := by
  -- The context has no value below, so that what is read of it is not computed again.
  obtain ⟨context, value⟩
      : ∃ context : Context,
          context
          = { buffer := { lines := ["a", "b"] }
              memory := { replacement := some "r", options := some "g" } } :=
    ⟨_, rfl⟩
  have found
      : (context.readRange "/b/m/x/".toList).1 = .ok ⟨1, 1, true, ['m', '/', 'x', '/']⟩ := by
    rw [value]
    decide +kernel
  have range : context.commandRange ⟨1, 1, true, ['m', '/', 'x', '/']⟩ = .ok ⟨1, 1⟩ := by
    rw [value]
    decide
  have missed
      : ((context.withMemory (context.readRange "/b/m/x/".toList).2).readAddress .first
          ['/', 'x', '/']).1
        = .error .noMatch := by
    rw [value]
    decide +kernel
  have fails : context.FailsAtAddress "/b/m/x/".toList .noMatch :=
    .destination (Prod.ext found rfl) range (Context.innermost_of_simple (by decide))
      (Prod.ext missed rfl)
  let session : Session := { context := context, world := ⟨⟨[]⟩, {}⟩ }
  obtain ⟨_, _, _, lines, lost⟩ := session.reading_and_running_apart
  obtain ⟨failed, replacement, _⟩ := lost "/b/m/x/" .noMatch fails
  obtain ⟨memory, _, unread⟩ := lines "/b/m/x/"
  refine ⟨session, fails, failed, ?_, ?_, unread _ failed⟩
  · rw [memory]
    show ((context.readCommand "/b/m/x/").2.search.map Pattern.source) = some "x"
    rw [value]
    decide +kernel
  · rw [memory, replacement]
    show context.memory.replacement = some "r"
    rw [value]

end Session

end LineEditor
