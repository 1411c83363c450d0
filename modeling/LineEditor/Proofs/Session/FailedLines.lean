import LineEditor.Session
import LineEditor.Proofs.Execution.CommandEnds

/-! Command lines that fail and command lines that go well. A line that fails reports its error
and changes nothing else than the memory of the command language; a line that goes well reports
nothing.
-/

namespace LineEditor

namespace Session

variable {session : Session} {line : String} {command : Command} {memory : Memory}
  {error : EditError} {change : Change} {world : World}

/-- The error that a command line fails with, if it does: in reading it, or else in carrying it
out.
-/
def failure? (session : Session) (line : String) : Option EditError :=
  match (session.context.readCommand line).1 with
  | .error error => some error
  | .ok command =>
      match ((command.plan session.context.buffer).run session.world).1.result with
      | .error error => some error
      | .ok _ => none

/-- The session after reading a command line: only the memory may be another one. -/
def afterReading (session : Session) (line : String) : Session :=
  { session with
    context := session.context.withMemory (session.context.readCommand line).2 }

/-- A line that cannot be read is reported. -/
theorem runLine_of_unread (unread : session.context.readCommand line = (.error error, memory))
    : session.runLine line = (.goOn, (session.afterReading line).report error) := by
  simp only [runLine, afterReading, unread]

/-- A line that can be read is carried out with the memory that reading leaves. -/
theorem runLine_of_read (read : session.context.readCommand line = (.ok command, memory))
    : session.runLine line = (session.afterReading line).runCommand command := by
  simp only [runLine, afterReading, read]

/-- A command whose change ends with an error leaves its change, and the error is reported. -/
theorem runCommand_of_error (session : Session)
    (ran : (command.plan session.context.buffer).run session.world = (change, world))
    (failed : change.result = .error error)
    : session.runCommand command
      = (.goOn, ({ session with world := world }.adopt change).report error) := by
  simp only [runCommand, ran, failed]

/-- A command whose change ends well leaves its change. -/
theorem runCommand_of_ok (session : Session) {outcome : Outcome}
    (ran : (command.plan session.context.buffer).run session.world = (change, world))
    (ended : change.result = .ok outcome)
    : session.runCommand command = (outcome, { session with world := world }.adopt change) := by
  simp only [runCommand, ran, ended]

/-- Taking over a refusal changes nothing. -/
theorem adopt_refuse (session : Session) (error : EditError)
    : session.adopt (session.context.buffer.refuse error) = session := by
  simp [adopt, Buffer.refuse]

/-- A line that fails only reports its error, whether it fails in being read or in being carried
out, because a command that fails refuses the buffer and leaves the world.
-/
theorem runLine_of_failure (failed : session.failure? line = some error)
    : session.runLine line = (.goOn, (session.afterReading line).report error) := by
  cases read : session.context.readCommand line with
  | mk result memory =>
      cases result with
      | error unread =>
          have same : unread = error := by simpa [failure?, read] using failed
          rw [runLine_of_unread read, same]
      | ok command =>
          cases ran : (command.plan session.context.buffer).run session.world with
          | mk change world =>
              have ends := command.ends session.context.buffer session.world
              rw [ran] at ends
              have refused : change.result = .error error := by
                cases result : change.result with
                | ok outcome => simp [failure?, read, ran, result] at failed
                | error other => simpa [failure?, read, ran, result] using failed
              obtain ⟨rfl, rfl⟩ := ends.eq_of_error refused
              rw [runLine_of_read read,
                runCommand_of_error (session.afterReading line) ran refused]
              exact congrArg (fun unchanged => (_, unchanged.report error))
                (adopt_refuse (session.afterReading line) error)

/-- What a line that goes well does: the command that is read comes to an end without an error,
and the session takes over its change and its world.
-/
structure Runs (session : Session) (line : String) (command : Command) (change : Change)
    (world : World) (outcome : Outcome)
    : Prop where
  read : (session.context.readCommand line).1 = .ok command
  ends : command.Ends session.context.buffer session.world change world
  result : change.result = .ok outcome
  ran
    : session.runLine line
      = (outcome, { session.afterReading line with world := world }.adopt change)

/-- A line that does not fail goes well: it is read, and its command ends without an error. -/
theorem runs_of_failure?_eq_none (well : session.failure? line = none)
    : ∃ command change world outcome, session.Runs line command change world outcome := by
  cases read : session.context.readCommand line with
  | mk result memory =>
      cases result with
      | error unread => simp [failure?, read] at well
      | ok command =>
          cases ran : (command.plan session.context.buffer).run session.world with
          | mk change world =>
              have ends := command.ends session.context.buffer session.world
              rw [ran] at ends
              cases result : change.result with
              | error error => simp [failure?, read, ran, result] at well
              | ok outcome =>
                  refine ⟨command, change, world, outcome, by rw [read], ends, result, ?_⟩
                  rw [runLine_of_read read]
                  exact runCommand_of_ok (session.afterReading line) ran result

/-- A command line that fails goes on with the session and leaves the buffer, the output, the
input, the files and the prompt as they were; its error becomes the last one and is reported on
one line. A command line that goes well reports nothing. Both follow from what the line does: a
failure is a refusal with one report, and taking over a change reports nothing.
-/
theorem runLine_frame (session : Session) (line : String)
    : match session.failure? line with
      | some error =>
          (session.runLine line).1 = .goOn
          ∧ (session.runLine line).2
            = { session with
                context :=
                  { session.context with memory := (session.context.readCommand line).2 }
                diagnostics := session.diagnostics ++ ("?  " ++ error.message ++ "\n")
                lastError := some error }
      | none =>
          (session.runLine line).2.diagnostics = session.diagnostics
          ∧ (session.runLine line).2.lastError = session.lastError := by
  cases failed : session.failure? line with
  | some error =>
      rw [runLine_of_failure failed]
      exact ⟨rfl, rfl⟩
  | none =>
      obtain ⟨command, change, world, outcome, runs⟩ := runs_of_failure?_eq_none failed
      rw [runs.ran]
      exact ⟨rfl, rfl⟩

end Session

end LineEditor
