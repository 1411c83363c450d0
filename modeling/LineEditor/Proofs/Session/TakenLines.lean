import LineEditor.Proofs.Session.FailedLines
import LineEditor.Proofs.Session.InputEnds

/-! Lines that a session takes from its input, as commands and as text. The loop ends at the first
line that answers like the end of the input; the text of a command ends there as well, but then
the loop goes on with what stands behind.
-/

namespace LineEditor

----------------------------------------------------------------------------------------
-- Commands
----------------------------------------------------------------------------------------

namespace Command

variable {command : Command} {buffer : Buffer}

/-- The command takes text from the input. To change lines there have to be some. -/
def takesText (command : Command) (buffer : Buffer) : Bool :=
  match command.operation with
  | .input mode => !(mode = .change && buffer.isEmpty)
  | _ => false

/-- A command leaves the input unless it takes text from it. -/
theorem run_input (command : Command) (buffer : Buffer) (world : World)
    : ((command.plan buffer).run world).2.input
      = if command.takesText buffer then world.input.takeText.2 else world.input := by
  unfold plan takesText
  cases command.operation with
  | each _ | global _ | move _ | read _ | write _ | quit => rfl
  | input mode =>
      by_cases refused : (decide (mode = .change) && buffer.isEmpty) = true
      · simp only [refused]
        rfl
      · simp only [refused]
        rfl

/-- A command that takes text enters it, and the session goes on. -/
theorem run_of_takesText (takes : command.takesText buffer = true) (world : World)
    : ∃ mode,
        command.operation = .input mode
        ∧ ((command.plan buffer).run world).1
          = { buffer := buffer.enterText command.range mode world.input.takeText.1 } := by
  unfold takesText at takes
  cases operation : command.operation with
  | input mode =>
      simp only [operation, Bool.not_eq_true'] at takes
      refine ⟨mode, rfl, ?_⟩
      simp only [plan, operation, takes]
      rfl
  | each _ | global _ | move _ | read _ | write _ | quit => simp [operation] at takes

end Command

namespace Session

variable {session after : Session} {line : String} {text : List String}
  {behind : List (Option String)}

----------------------------------------------------------------------------------------
-- Turns
----------------------------------------------------------------------------------------

/-- The command line takes text from the input. -/
def takesText (session : Session) (line : String) : Bool :=
  match (session.context.readCommand line).1 with
  | .ok command => command.takesText session.context.buffer
  | .error _ => false

/-- One turn of the loop: the prompt, and a command line that is taken and run. Without one the
session ends.
-/
def turn (session : Session) : Outcome × Session :=
  match session.showPrompt.nextLine with
  | (none, session) => (.quit, session)
  | (some line, session) => session.runLine line

/-- The second session comes from the first one by turns that go on. -/
inductive Turns : Session → Session → Prop
  | refl (session : Session) : Turns session session
  | turn {session after last : Session} (goes : session.turn = (.goOn, after))
    (rest : Turns after last)
    : Turns session last

/-- The next turn takes a command line with a text that is broken off by a line that cannot be
decoded.
-/
structure BreaksOff (session : Session) (line : String) (text : List String)
    (behind : List (Option String))
    : Prop where
  takes : session.takesText line = true
  lines
    : ∃ pending,
        session.world.input.pending = some line :: pending
        ∧ Input.BreaksOff pending text behind

/-- The lines that a turn takes from the input. -/
def turnLines (session : Session) : List (Option String) :=
  match session.world.input.pending with
  | [] => []
  | none :: _ => [none]
  | some line :: pending =>
      some line :: if session.takesText line then Input.textLines pending else []

/-- A command line leaves the input unless it takes text from it. -/
theorem runLine_input (session : Session) (line : String)
    : (session.runLine line).2.world.input
      = if session.takesText line then session.world.input.takeText.2
        else session.world.input := by
  unfold takesText
  cases read : session.context.readCommand line with
  | mk result memory =>
      cases result with
      | error error => simp [runLine_of_unread read, report, afterReading]
      | ok command =>
          rw [runLine_of_read read, ← command.run_input]
          cases ran : (command.plan session.context.buffer).run session.world with
          | mk change world =>
              cases result : change.result with
              | error error => rw [runCommand_of_error (session.afterReading line) ran result]; rfl
              | ok outcome => rw [runCommand_of_ok (session.afterReading line) ran result]; rfl

/-- A command line that takes text enters it, and the session goes on. -/
theorem runLine_of_takesText (takes : session.takesText line = true)
    : ∃ command mode,
        (session.context.readCommand line).1 = .ok command
        ∧ command.operation = .input mode
        ∧ (session.runLine line).1 = .goOn
        ∧ (session.runLine line).2.context.buffer
          = session.context.buffer.enterText command.range mode
            session.world.input.takeText.1 := by
  unfold takesText at takes
  cases read : session.context.readCommand line with
  | mk result memory =>
      cases result with
      | error error => simp [read] at takes
      | ok command =>
          rw [read] at takes
          obtain ⟨mode, operation, change⟩ := Command.run_of_takesText takes session.world
          refine ⟨command, mode, rfl, operation, ?_⟩
          rw [runLine_of_read read,
            runCommand_of_ok (session.afterReading line) (Prod.ext change rfl) rfl]
          exact ⟨rfl, rfl⟩

/-- The session with the prompt shown and the next line taken. -/
def withLineTaken (session : Session) : Session :=
  { session.showPrompt with
    world := { session.world with input := session.world.input.next.2 } }

/-- Behind the prompt the next line is taken from the input. -/
theorem showPrompt_nextLine (session : Session)
    : session.showPrompt.nextLine = (session.world.input.next.1, session.withLineTaken) :=
  rfl

/-- Taking a line leaves the context, so that the line is read like before. -/
theorem takesText_withLineTaken : session.withLineTaken.takesText line = session.takesText line :=
  rfl

/-- A turn without a line to take ends the session. -/
theorem turn_of_none (next : session.world.input.next.1 = none)
    : session.turn = (.quit, session.withLineTaken) := by
  simp only [turn, showPrompt_nextLine, next]

/-- A turn with a line to take runs it. -/
theorem turn_of_some (next : session.world.input.next.1 = some line)
    : session.turn = session.withLineTaken.runLine line := by
  simp only [turn, showPrompt_nextLine, next]

/-- A turn with a line to take leaves the lines behind it, or those behind its text. -/
theorem turn_pending_of_some {rest : List (Option String)}
    (pending : session.world.input.pending = some line :: rest)
    : session.turn.2.world.input.pending
      = if session.takesText line then (Input.textFrom rest).2 else rest := by
  have next : session.world.input.next = (some line, ⟨rest⟩) := by
    simp only [Input.next, pending]
  have left : session.withLineTaken.world.input = ⟨rest⟩ := by
    simp only [withLineTaken, next]
  rw [turn_of_some (congrArg Prod.fst next), runLine_input, takesText_withLineTaken, left]
  cases session.takesText line <;> rfl

/-- A turn without a line to take leaves the lines behind the one that cannot be decoded. -/
theorem turn_pending_of_none (next : session.world.input.next.1 = none)
    : session.turn.2.world.input.pending = session.world.input.pending.tail := by
  rw [turn_of_none next]
  unfold withLineTaken
  rcases session.world.input with ⟨_ | ⟨line, rest⟩⟩ <;> rfl

/-- A turn takes its lines in front of those that it leaves. -/
theorem turnLines_append (session : Session)
    : session.turnLines ++ session.turn.2.world.input.pending = session.world.input.pending := by
  unfold turnLines
  rcases pending : session.world.input.pending with _ | ⟨_ | line, rest⟩
  · rw [turn_pending_of_none (by simp [Input.next, pending]), pending]
    rfl
  · rw [turn_pending_of_none (by simp [Input.next, pending]), pending]
    rfl
  · rw [turn_pending_of_some pending]
    cases takes : session.takesText line with
    | false => simp [takes]
    | true => simp [takes, Input.textLines_append]

/-- The lines of a turn end for good, because a text ends at the first one that cannot be
decoded.
-/
theorem endsForGood_turnLines (session : Session) : Input.EndsForGood session.turnLines := by
  unfold turnLines
  rcases session.world.input.pending with _ | ⟨_ | line, rest⟩
  · exact List.Pairwise.nil
  · exact List.pairwise_singleton _ _
  · refine List.Pairwise.cons (fun _ _ => nofun) ?_
    cases session.takesText line with
    | false => exact List.Pairwise.nil
    | true => exact Input.endsForGood_textLines rest

/-- A turn that goes on has taken a line. -/
theorem exists_pending_of_goOn (goes : session.turn.1 = .goOn)
    : ∃ line rest, session.world.input.pending = some line :: rest := by
  rcases session.world.input.next_eq_none_or with next | pending
  · rw [turn_of_none next] at goes
    cases goes
  · exact pending

/-- Where a text is broken off the session goes on with what stands behind it. The lines in front
have become lines of the buffer.
-/
theorem BreaksOff.turn (breaks : session.BreaksOff line text behind)
    : session.turn.1 = .goOn
      ∧ session.turn.2.world.input.pending = behind
      ∧ ∃ command mode,
          (session.context.readCommand line).1 = .ok command
          ∧ command.operation = .input mode
          ∧ session.turn.2.context.buffer
            = session.context.buffer.enterText command.range mode text := by
  obtain ⟨takes, rest, pending, broken⟩ := breaks
  have next : session.world.input.next = (some line, ⟨rest⟩) := by
    simp only [Input.next, pending]
  have taken : session.withLineTaken.world.input.takeText.1 = text := by
    simp only [withLineTaken, next, Input.takeText, broken.textFrom_eq]
  have left := turn_pending_of_some pending
  rw [takes, if_pos rfl, broken.textFrom_eq] at left
  obtain ⟨command, mode, read, operation, goes, entered⟩ :=
    runLine_of_takesText (takesText_withLineTaken.trans takes)
  rw [turn_of_some (congrArg Prod.fst next)] at left ⊢
  rw [taken] at entered
  exact ⟨goes, left, command, mode, read, operation, entered⟩

/-- Where a text is broken off the turn takes the line that cannot be decoded. -/
theorem BreaksOff.none_mem_turnLines (breaks : session.BreaksOff line text behind)
    : none ∈ session.turnLines := by
  obtain ⟨takes, rest, pending, broken⟩ := breaks
  have member := Input.none_mem_textLines_iff.mpr ⟨text, behind, broken⟩
  simp [turnLines, pending, takes, member]

/-- A turn that goes on takes a line that cannot be decoded only where it breaks off a text. -/
theorem exists_breaksOff (goes : session.turn.1 = .goOn) (member : none ∈ session.turnLines)
    : ∃ line text, session.BreaksOff line text session.turn.2.world.input.pending := by
  obtain ⟨line, rest, pending⟩ := exists_pending_of_goOn goes
  cases takes : session.takesText line with
  | false => simp [turnLines, pending, takes] at member
  | true =>
      obtain ⟨text, behind, broken⟩ :=
        Input.none_mem_textLines_iff.mp (by simpa [turnLines, pending, takes] using member)
      have breaks : session.BreaksOff line text behind := ⟨takes, rest, pending, broken⟩
      exact ⟨line, text, breaks.turn.2.1.symm ▸ breaks⟩

----------------------------------------------------------------------------------------
-- Runs
----------------------------------------------------------------------------------------

/-- Running is one turn, and running on if it goes on. -/
theorem runLines_succ (turns : Nat) (session : Session)
    : runLines (turns + 1) session
      = match session.turn with
        | (.quit, session) => session
        | (.goOn, session) => runLines turns session := by
  rw [runLines, turn, showPrompt_nextLine]
  cases session.world.input.next.1 with
  | none => rfl
  | some line => rfl

/-- The lines that so many turns take from the input. -/
def linesTaken : Nat → Session → List (Option String)
  | 0, _ => []
  | turns + 1, session =>
      session.turnLines
        ++ match session.turn with
          | (.quit, _) => []
          | (.goOn, session) => linesTaken turns session

/-- Running takes its lines in front of those that it leaves, by induction on the turns. -/
theorem linesTaken_append (turns : Nat) (session : Session)
    : linesTaken turns session ++ (runLines turns session).world.input.pending
      = session.world.input.pending := by
  induction turns generalizing session with
  | zero => rfl
  | succ turns ih =>
      rw [linesTaken, runLines_succ, ← session.turnLines_append, List.append_assoc]
      rcases session.turn with ⟨_ | _, after⟩
      · exact congrArg _ (ih after)
      · rfl

/-- With a line to take, that line is taken. -/
theorem mem_linesTaken {next : String} {turns : Nat}
    (pending : session.world.input.pending = some next :: behind)
    : some next ∈ linesTaken (turns + 1) session := by
  simp [linesTaken, turnLines, pending]

/-- Without a line to take, only a line that cannot be decoded is taken. -/
theorem eq_none_of_mem_linesTaken {taken : Option String} {turns : Nat}
    (next : session.world.input.next.1 = none) (member : taken ∈ linesTaken turns session)
    : taken = none := by
  cases turns with
  | zero => cases member
  | succ turns =>
      rw [linesTaken, turn_of_none next, List.append_nil] at member
      unfold turnLines at member
      rcases pending : session.world.input.pending with _ | ⟨_ | line, rest⟩
      · simp [pending] at member
      · simpa [pending] using member
      · simp [Input.next, pending] at next

/-- In the session, or in what becomes of it, a text is broken off in front of a line that can be
decoded, which then is a command.
-/
def Resumes (session : Session) : Prop :=
  ∃ later line text next behind,
    session.Turns later ∧ later.BreaksOff line text (some next :: behind)

/-- Without another turn no text is broken off, because the session would go on behind it. -/
theorem not_resumes_of_quit (quits : session.turn.1 = .quit) : ¬ session.Resumes := by
  rintro ⟨later, line, text, next, behind, turns, breaks⟩
  cases turns with
  | refl =>
      rw [breaks.turn.1] at quits
      cases quits
  | turn goes =>
      rw [goes] at quits
      cases quits

/-- With another turn, a text is broken off in that one or later. -/
theorem resumes_iff_of_goOn (goes : session.turn = (.goOn, after))
    : session.Resumes
      ↔ (∃ line text next behind, session.BreaksOff line text (some next :: behind))
        ∨ after.Resumes := by
  constructor
  · rintro ⟨later, line, text, next, behind, turns, breaks⟩
    cases turns with
    | refl => exact Or.inl ⟨line, text, next, behind, breaks⟩
    | turn same rest =>
        rw [goes] at same
        cases same
        exact Or.inr ⟨later, line, text, next, behind, rest, breaks⟩
  · rintro (⟨line, text, next, behind, breaks⟩ | ⟨later, line, text, next, behind, turns, breaks⟩)
    · exact ⟨session, line, text, next, behind, .refl session, breaks⟩
    · exact ⟨later, line, text, next, behind, .turn goes turns, breaks⟩

/-- A turn that goes on leaves fewer lines. -/
theorem pending_length_lt (goes : session.turn = (.goOn, after))
    : after.world.input.pending.length < session.world.input.pending.length := by
  obtain ⟨line, rest, pending⟩ := exists_pending_of_goOn (congrArg Prod.fst goes)
  have parts := congrArg List.length session.turnLines_append
  have taken : 0 < session.turnLines.length := by simp [turnLines, pending]
  simp only [goes, List.length_append] at parts
  omega

/-- After a turn that goes on, no line that can be decoded is taken behind one that cannot exactly
if the turn breaks off no text in front of such a line.
-/
theorem taken_later_iff {turns : Nat} (goes : session.turn = (.goOn, after))
    (enough : after.world.input.pending.length < turns)
    : (∀ first ∈ session.turnLines, ∀ second ∈ linesTaken turns after,
        first = none → second = none)
      ↔ ¬ ∃ line text next behind, session.BreaksOff line text (some next :: behind) := by
  constructor
  · rintro ended ⟨line, text, next, behind, breaks⟩
    have left := breaks.turn.2.1
    rw [goes] at left
    obtain ⟨turns, rfl⟩ := Nat.exists_eq_add_one_of_ne_zero (Nat.ne_zero_of_lt enough)
    cases ended none breaks.none_mem_turnLines (some next) (mem_linesTaken left) rfl
  · rintro whole first member second later rfl
    obtain ⟨line, text, breaks⟩ := exists_breaksOff (congrArg Prod.fst goes) member
    rw [goes] at breaks
    rcases after.world.input.next_eq_none_or with none | ⟨next, behind, pending⟩
    · exact eq_none_of_mem_linesTaken none later
    · exact absurd ⟨line, text, next, behind, pending ▸ breaks⟩ whole

/-- With enough turns, the lines taken end for good exactly if no text is broken off in front of a
line that can be decoded. By induction on the turns: within a turn the lines always end for good,
so that only two turns can go against it.
-/
theorem endsForGood_linesTaken_iff {turns : Nat}
    (enough : session.world.input.pending.length < turns)
    : Input.EndsForGood (linesTaken turns session) ↔ ¬ session.Resumes := by
  induction turns generalizing session with
  | zero => omega
  | succ turns ih =>
      rw [linesTaken]
      rcases turn : session.turn with ⟨_ | _, after⟩
      · have fewer := pending_length_lt turn
        have fits : after.world.input.pending.length < turns := by omega
        rw [Input.EndsForGood, List.pairwise_append, taken_later_iff turn fits,
          resumes_iff_of_goOn turn, not_or, and_comm (a := ¬ _), ← ih fits]
        exact and_iff_right session.endsForGood_turnLines
      · rw [List.append_nil]
        exact iff_of_true session.endsForGood_turnLines
          (not_resumes_of_quit (congrArg Prod.fst turn))

/-- Input from bytes that has answered that it ends keeps to it exactly if every line behind one
that cannot be decoded cannot be decoded either. A session over it takes no line that can be
decoded behind one that cannot exactly if it breaks off no text in front of such a line. Where it
does break off a text, what was typed of the text is entered and the session goes on with the
lines behind.
-/
theorem input_ends_for_good_iff {session : Session} {bytes : ByteArray}
    (reads : session.world.input = .ofBytes bytes)
    : ((∀ first second,
          first ≤ second
          → session.world.input.answer first = none
          → session.world.input.answer second = none)
        ↔ (Text.rawLines bytes.toList).Pairwise fun first second =>
            Text.decode? first.bytes = none → Text.decode? second.bytes = none)
      ∧ (∃ taken,
        session.world.input.pending = taken ++ session.run.world.input.pending
        ∧ (Input.EndsForGood taken ↔ ¬ session.Resumes))
      ∧ ∀ later line text behind,
        session.Turns later
        → later.BreaksOff line text behind
        → later.turn.1 = .goOn
          ∧ later.turn.2.world.input.pending = behind
          ∧ ∃ command mode,
            (later.context.readCommand line).1 = .ok command
            ∧ command.operation = .input mode
            ∧ later.turn.2.context.buffer
              = later.context.buffer.enterText command.range mode text := by
  refine ⟨?_, ⟨_, (linesTaken_append _ session).symm, ?_⟩, fun _ _ _ _ _ breaks => breaks.turn⟩
  · rw [reads]
    exact (Input.answer_stays_none_iff _).trans (Input.endsForGood_ofBytes_iff bytes)
  · exact endsForGood_linesTaken_iff (Nat.lt_succ_self _)

/-- A line is typed in and the text ended by a dot. The session then takes the line that cannot be
decoded as its end, and leaves the line behind, although the input would go on with it. Without
the dot the text is broken off, and the session goes on with the line behind.
-/
theorem input_ends_for_good_iff_complete
    : ∃ whole broken : Session,
        whole.world.input = .ofBytes ⟨#[97, 10, 120, 10, 46, 10, 255, 10, 110, 10]⟩
        ∧ broken.world.input = .ofBytes ⟨#[97, 10, 120, 10, 255, 10, 110, 10]⟩
        ∧ ¬ (∀ first second,
          first ≤ second
          → whole.world.input.answer first = none
          → whole.world.input.answer second = none)
        ∧ ¬ whole.Resumes
        ∧ whole.run.world.input.pending = [some "n"]
        ∧ broken.BreaksOff "a" ["x"] [some "n"]
        ∧ broken.turn.1 = .goOn
        ∧ broken.turn.2.world.input.pending = [some "n"] := by
  let reading (bytes : ByteArray) : Session := { context := {}, world := ⟨.ofBytes bytes, {}⟩ }
  let whole := reading ⟨#[97, 10, 120, 10, 46, 10, 255, 10, 110, 10]⟩
  let broken := reading ⟨#[97, 10, 120, 10, 255, 10, 110, 10]⟩
  obtain ⟨answers, ⟨taken, parts, ends⟩, _⟩ :=
    input_ends_for_good_iff (show whole.world.input = .ofBytes _ from rfl)
  have left : whole.run.world.input.pending = [some "n"] := by decide +kernel
  have lines
      : whole.world.input.pending = [some "a", some "x", some ".", none] ++ [some "n"] := by
    decide +kernel
  have same : taken = [some "a", some "x", some ".", none] := by
    rw [left, lines] at parts
    exact (List.append_cancel_right parts).symm
  have goesOn := mt answers.mp (by decide +kernel)
  have breaks : broken.BreaksOff "a" ["x"] [some "n"] := by
    refine ⟨by decide +kernel, [some "x", none, some "n"], by decide +kernel, ?_⟩
    exact ⟨by decide, rfl⟩
  have goes := (input_ends_for_good_iff (show broken.world.input = .ofBytes _ from rfl)).2.2
    broken "a" ["x"] [some "n"] (.refl broken) breaks
  exact ⟨whole, broken, rfl, rfl, goesOn, ends.mp (same ▸ by decide), left, breaks, goes.1,
    goes.2.1⟩

/-- A text is broken off by a line that cannot be decoded, and the line behind that is run as a
command. The input has answered that it ends, and then gives this line.
-/
theorem input_goes_on_behind_text
    : ∃ session : Session,
        session.world.input = .ofBytes ⟨#[97, 10, 120, 10, 255, 10, 110, 10]⟩
        ∧ session.world.input.answer 2 = none
        ∧ session.world.input.answer 3 = some "n"
        ∧ session.run.output = "1\tx\n"
        ∧ session.run.world.input.pending = [] := by
  refine ⟨{
      context := {}
      world := ⟨.ofBytes ⟨#[97, 10, 120, 10, 255, 10, 110, 10]⟩, {}⟩
    }, rfl, ?_, ?_, ?_, ?_⟩
  all_goals decide +kernel

end Session

end LineEditor
