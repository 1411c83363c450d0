import Mathlib.Logic.Relation
import LineEditor.Proofs.Execution.SingleLines
import LineEditor.Proofs.Session.CurrentLine
import LineEditor.Proofs.Session.TakenLines

/-! Sessions on single lines. From single lines, and from bytes of any kind that are typed, only
single lines come about: in the buffer, in the name of its file, in the memory, and in the reports.
-/

namespace LineEditor

open Relation (ReflTransGen)
open Text (SingleLine singleLine_of_typed?)

/-- Lines that are typed as bytes are single lines. -/
theorem Input.singleLines_ofBytes (bytes : ByteArray) : (ofBytes bytes).SingleLines := by
  intro line member
  obtain ⟨raw, among, typed⟩ := List.mem_map.mp member
  exact singleLine_of_typed? among typed

namespace Session

variable {start session after : Session} {line path : String}

/-- What is edited, what is remembered and what can still be typed are single lines. -/
structure SingleLines (session : Session) : Prop where
  context : session.context.SingleLines
  input : session.world.input.SingleLines

/-- Nothing is reported, or one message on a line of its own. -/
def Reports (session after : Session) : Prop :=
  after.diagnostics = session.diagnostics
  ∨ ∃ message : String,
      '\n' ∉ message.toList
      ∧ after.diagnostics = session.diagnostics ++ ("?  " ++ message ++ "\n")

/-- The second session comes from the first one by opening a file, by running a command line, by a
turn of the loop over the input, or by files that become others.
-/
inductive Step : Session → Session → Prop
  | opened {session : Session} (path : String) (single : '\n' ∉ path.toList)
    : Step session (session.open path)
  | ran {session : Session} (line : String) (single : '\n' ∉ line.toList)
    : Step session (session.runLine line).2
  | turned {session : Session} : Step session session.turn.2
  | stored {session : Session} (files : FileTree)
    : Step session { session with world := { session.world with files := files } }

----------------------------------------------------------------------------------------
-- Single steps
----------------------------------------------------------------------------------------

theorem SingleLines.open (single : session.SingleLines) (named : SingleLine path)
    : (session.open path).SingleLines ∧ session.Reports (session.open path) := by
  obtain ⟨⟨buffer, memory⟩, input⟩ := single
  unfold Session.open
  cases found : session.world.files.load path with
  | ok text =>
      have lines := FileTree.singleLine_of_load found
      refine ⟨⟨⟨?_, memory⟩, input⟩, Or.inl rfl⟩
      exact Buffer.singleLines_setFilename lines named
  | error error =>
      have reported : (EditError.file error).SingleLines :=
        FileTree.singleLine_of_load_error named found
      refine ⟨⟨⟨?_, memory⟩, input⟩, Or.inr ⟨_, reported.message, rfl⟩⟩
      show (if session.context.buffer.filename.isNone then _ else _ : Buffer).SingleLines
      split
      · exact Buffer.singleLines_setFilename buffer.lines named
      · exact buffer

/-- A command line reads and carries out a command of single lines, or reports an error of one of
the two.
-/
theorem SingleLines.runLine (single : session.SingleLines) (typed : SingleLine line)
    : (session.runLine line).2.SingleLines
      ∧ (session.world.files.SingleLines
        → session.Reports (session.runLine line).2
          ∧ (session.runLine line).2.world.files.SingleLines) := by
  obtain ⟨context, input⟩ := single
  obtain ⟨answers, memory⟩ := Context.recalls_readCommand context typed
  cases read : session.context.readCommand line with
  | mk result remembered =>
      rw [read] at answers
      cases result with
      | error error =>
          rw [runLine_of_unread read]
          refine ⟨⟨⟨context.buffer, memory⟩, input⟩, ?_⟩
          exact fun files => ⟨Or.inr ⟨_, answers.message, rfl⟩, files⟩
      | ok command =>
          have run := Command.run_singleLines context.buffer answers input
          rw [runLine_of_read read]
          cases ran : (command.plan session.context.buffer).run session.world with
          | mk change world =>
              rw [ran] at run
              obtain ⟨buffer, left, ended⟩ := run
              cases result : change.result with
              | error error =>
                  rw [runCommand_of_error (session.afterReading line) ran result]
                  refine ⟨⟨⟨buffer, memory⟩, left⟩, fun files => ?_⟩
                  obtain ⟨named, files⟩ := ended files
                  rw [result] at named
                  exact ⟨Or.inr ⟨_, EditError.SingleLines.message named, rfl⟩, files⟩
              | ok outcome =>
                  rw [runCommand_of_ok (session.afterReading line) ran result]
                  refine ⟨⟨⟨buffer, memory⟩, left⟩, fun files => ?_⟩
                  exact ⟨Or.inl rfl, (ended files).2⟩

/-- A turn takes a single line from the input and runs it. -/
theorem SingleLines.turn (single : session.SingleLines)
    : session.turn.2.SingleLines
      ∧ (session.world.files.SingleLines
        → session.Reports session.turn.2 ∧ session.turn.2.world.files.SingleLines) := by
  obtain ⟨context, input⟩ := single
  have left : session.world.input.next.2.SingleLines := by
    unfold Input.next
    split
    · exact input
    · next first pending lines =>
        intro line member
        exact input line (lines ▸ List.mem_cons_of_mem first member)
  have taken : session.withLineTaken.SingleLines := ⟨context, left⟩
  rcases session.world.input.next_eq_none_or with none | ⟨line, pending, lines⟩
  · rw [turn_of_none none]
    exact ⟨taken, fun files => ⟨Or.inl rfl, files⟩⟩
  · have next : session.world.input.next.1 = some line := by simp only [Input.next, lines]
    rw [turn_of_some next]
    exact taken.runLine (input line (lines ▸ List.mem_cons_self))

/-- Every step keeps single lines and reports single lines. -/
theorem SingleLines.step (single : session.SingleLines) (step : session.Step after)
    : after.SingleLines ∧ (session.world.files.SingleLines → session.Reports after) := by
  cases step with
  | opened path named =>
      obtain ⟨kept, reports⟩ := single.open named
      exact ⟨kept, fun _ => reports⟩
  | ran line typed =>
      obtain ⟨kept, reports⟩ := single.runLine typed
      exact ⟨kept, fun files => (reports files).1⟩
  | turned =>
      obtain ⟨kept, reports⟩ := single.turn
      exact ⟨kept, fun files => (reports files).1⟩
  | stored files => exact ⟨⟨single.context, single.input⟩, fun _ => Or.inl rfl⟩

----------------------------------------------------------------------------------------
-- Runs
----------------------------------------------------------------------------------------

/-- Single lines stay single lines, by induction on the steps. -/
theorem SingleLines.steps (single : start.SingleLines) (steps : ReflTransGen Step start session)
    : session.SingleLines := by
  induction steps with
  | refl => exact single
  | tail _ step ih => exact (ih.step step).1

/-- A run is made of turns. -/
theorem steps_runLines (turns : Nat) (session : Session)
    : ReflTransGen Step session (runLines turns session) := by
  induction turns generalizing session with
  | zero => exact .refl
  | succ turns ih =>
      have step : session.Step session.turn.2 := .turned
      rw [runLines_succ]
      rcases turn : session.turn with ⟨_ | _, after⟩
      · rw [turn] at step
        exact .head step (ih after)
      · rw [turn] at step
        exact .single step

/-- A run reports single lines one after the other, by induction on the turns, each of which leaves
names of files on single lines.
-/
theorem SingleLines.reports_runLines (single : session.SingleLines)
    (files : session.world.files.SingleLines) (turns : Nat)
    : ReflTransGen Reports session (runLines turns session) := by
  induction turns generalizing session with
  | zero => exact .refl
  | succ turns ih =>
      obtain ⟨kept, ended⟩ := single.turn
      obtain ⟨reports, files⟩ := ended files
      rw [runLines_succ]
      rcases turn : session.turn with ⟨_ | _, after⟩
      · rw [turn] at kept reports files
        exact .head reports (ih kept files)
      · rw [turn] at reports
        exact .single reports

end Session

end LineEditor
