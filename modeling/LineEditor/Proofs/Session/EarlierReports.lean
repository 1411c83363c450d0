import LineEditor.Proofs.Session.TakenLines

/-! Sessions that start behind other reports. What was written to the diagnostic channel before has
no effect on a session; its own reports come behind it.
-/

namespace LineEditor.Session

/-- The session with a text in front of all that it has reported. -/
def behind (session : Session) (text : String) : Session :=
  { session with diagnostics := text ++ session.diagnostics }

theorem runLine_behind (session : Session) (text line : String)
    : (session.behind text).runLine line
      = ((session.runLine line).1, (session.runLine line).2.behind text) := by
  rcases read : session.context.readCommand line with ⟨error | command, memory⟩
  · simp [runLine, behind, read, report, String.append_assoc]
  · rcases ran : (command.plan session.context.buffer).run session.world with ⟨change, world⟩
    cases result : change.result with
    | error error =>
        simp [runLine, runCommand, behind, Context.withMemory, read, ran, result, adopt, report,
          String.append_assoc]
    | ok outcome =>
        simp [runLine, runCommand, behind, Context.withMemory, read, ran, result, adopt]

theorem open_behind (session : Session) (text path : String)
    : (session.behind text).open path = (session.open path).behind text := by
  cases found : session.world.files.load path with
  | ok loaded => simp [Session.open, behind, found]
  | error error => simp [Session.open, behind, found, report, String.append_assoc]

theorem turn_behind (session : Session) (text : String)
    : (session.behind text).turn = (session.turn.1, session.turn.2.behind text) := by
  rcases session.world.input.next_eq_none_or with none | ⟨line, pending, lines⟩
  · have same : (session.behind text).turn = _ := turn_of_none none
    rw [turn_of_none none, same]
    rfl
  · have next : session.world.input.next.1 = some line := by simp only [Input.next, lines]
    have same : (session.behind text).turn = _ := turn_of_some next
    rw [turn_of_some next, same]
    exact session.withLineTaken.runLine_behind text line

theorem runLines_behind (turns : Nat) (session : Session) (text : String)
    : runLines turns (session.behind text) = (runLines turns session).behind text := by
  induction turns generalizing session with
  | zero => rfl
  | succ turns ih =>
      rw [runLines_succ, runLines_succ, turn_behind]
      rcases session.turn with ⟨_ | _, after⟩
      · exact ih after
      · rfl

/-- A run does the same whatever was reported before it. -/
theorem run_behind (session : Session) (text : String)
    : (session.behind text).run = session.run.behind text :=
  runLines_behind _ session text

end LineEditor.Session
