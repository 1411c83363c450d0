import LineEditor.Proofs.Session.TakenLines

/-! Runs of a session over a script, with a prompt and without one. A run is the loop that takes the
next line of the script and runs it, until a command quits or the script is empty. The prompt is
written in front of every command and has no other effect.
-/

namespace LineEditor

namespace Input

/-- A text in front of the other lines of a script, as it is taken: it ends with a lone dot, which
is taken too, or with the script.
-/
inductive Typed : List String → List String → List String → Prop
  | dot {text unread} (dotless : "." ∉ text) : Typed text (text ++ ["."]) unread
  | ended {text} (dotless : "." ∉ text) : Typed text text []

theorem typed_takeText (script : List String)
    : ∃ text taken unread,
        script = taken ++ unread
        ∧ (ofLines script).takeText = (text, ofLines unread)
        ∧ Typed text taken unread := by
  induction script with
  | nil => exact ⟨[], [], [], rfl, rfl, .ended List.not_mem_nil⟩
  | cons line script ih =>
      by_cases dot : line = "."
      · subst dot
        exact ⟨[], ["."], script, rfl, rfl, .dot List.not_mem_nil⟩
      · obtain ⟨text, taken, unread, rfl, takes, typed⟩ := ih
        refine ⟨line :: text, line :: taken, unread, rfl, ?_, ?_⟩
        · simp only [takeText, ofLines, Prod.mk.injEq, mk.injEq] at takes ⊢
          simp only [List.map_cons, textFrom, if_neg dot, takes, true_and]
        · cases typed with
          | dot dotless => exact .dot (by simp [dotless, Ne.symm dot])
          | ended dotless => exact .ended (by simp [dotless, Ne.symm dot])

theorem ofLines_inj {first second : List String}
    : ofLines first = ofLines second ↔ first = second := by
  rw [ofLines, ofLines, mk.injEq]
  exact List.map_inj_right fun _ _ => Option.some.inj

end Input

namespace Session

variable {session after last : Session} {line : String} {script unread : List String}
  {outcome : Outcome}

----------------------------------------------------------------------------------------
-- Output
----------------------------------------------------------------------------------------

/-- The session with another output so far and another prompt. -/
def withOutput (session : Session) (output : String) (prompt : Option String) : Session :=
  { session with output := output, prompt := prompt }

/-- What a command line writes to the output. -/
def printed (session : Session) (line : String) : String :=
  match (session.context.readCommand line).1 with
  | .ok command => ((command.plan session.context.buffer).run session.world).1.output
  | .error _ => ""

/-- A command line does the same whatever was written before it and whatever the prompt is, and it
writes behind what was written.
-/
theorem runLine_withOutput (session : Session) (line output : String) (prompt : Option String)
    : (session.withOutput output prompt).runLine line
      = ((session.runLine line).1,
        (session.runLine line).2.withOutput (output ++ session.printed line) prompt) := by
  unfold printed
  cases read : session.context.readCommand line with
  | mk result memory =>
      cases result with
      | error error => simp [runLine, withOutput, read, report]
      | ok command =>
          cases ran : (command.plan session.context.buffer).run session.world with
          | mk change world =>
              cases result : change.result with
              | error error =>
                  simp [runLine, runCommand, withOutput, Context.withMemory, read, ran, result,
                    adopt, report]
              | ok outcome =>
                  simp [runLine, runCommand, withOutput, Context.withMemory, read, ran, result,
                    adopt]

theorem runLine_output (session : Session) (line : String)
    : (session.runLine line).2.output = session.output ++ session.printed line :=
  congrArg (·.2.output) (session.runLine_withOutput line session.output session.prompt)

----------------------------------------------------------------------------------------
-- Single commands
----------------------------------------------------------------------------------------

/-- A command of a run: its line, the lines behind it that it takes as its text, and what it
writes.
-/
structure Performed where
  line : String
  text : List String
  printed : String
  deriving DecidableEq, Repr

/-- The lines that a command takes from the script. -/
def Performed.lines (performed : Performed) : List String :=
  performed.line :: performed.text

/-- The session with a script still to be read. -/
def reading (session : Session) (script : List String) : Session :=
  { session with world := { session.world with input := .ofLines script } }

/-- The command is one that enters text, and the lines that it takes are the text it enters, with
the dot behind it if there is one.
-/
def EntersText (session : Session) (performed : Performed) (after : Session)
    (unread : List String)
    : Prop :=
  ∃ command mode text,
    (session.context.readCommand performed.line).1 = .ok command
    ∧ command.operation = .input mode
    ∧ Input.Typed text performed.text unread
    ∧ after.context.buffer = session.context.buffer.enterText command.range mode text

/-- The next line of the script is taken and run. Other lines are taken only as text. -/
structure Performs (session : Session) (performed : Performed) (outcome : Outcome)
    (after : Session) (unread : List String)
    : Prop where
  script : session.world.input = .ofLines (performed.lines ++ unread)
  ran : (session.reading (performed.text ++ unread)).runLine performed.line = (outcome, after)
  left : after.world.input = .ofLines unread
  text : performed.text = [] ∨ session.EntersText performed after unread
  writes : after.output = session.output ++ performed.printed

/-- Whatever line comes next in a script, it can be taken and run. -/
theorem exists_performs {behind : List String}
    (reads : session.world.input = .ofLines (line :: behind))
    (ran : (session.reading behind).runLine line = (outcome, after))
    : ∃ text unread, session.Performs ⟨line, text, (session.reading behind).printed line⟩
        outcome after unread := by
  have left := (session.reading behind).runLine_input line
  have writes := (session.reading behind).runLine_output line
  rw [ran] at left writes
  cases takes : (session.reading behind).takesText line with
  | false =>
      rw [takes] at left
      exact ⟨[], behind, reads, ran, left, Or.inl rfl, writes⟩
  | true =>
      obtain ⟨text, taken, unread, rfl, taking, typed⟩ := Input.typed_takeText behind
      obtain ⟨command, mode, read, operation, _, entered⟩ := runLine_of_takesText takes
      have input : (session.reading (taken ++ unread)).world.input = .ofLines (taken ++ unread) :=
        rfl
      rw [takes, if_pos rfl, input, taking] at left
      rw [ran, input, taking] at entered
      refine ⟨taken, unread, reads, ran, left, Or.inr ?_, writes⟩
      exact ⟨command, mode, text, read, operation, typed, entered⟩

/-- A turn writes the prompt and then takes and runs the next line. -/
theorem Performs.turn_withOutput {performed : Performed}
    (performs : session.Performs performed outcome after unread) (output : String)
    (prompt : Option String)
    : (session.withOutput output prompt).turn
      = (outcome,
        after.withOutput (output ++ (prompt.getD "" ++ performed.printed)) prompt) := by
  obtain ⟨script, ran, _, _, writes⟩ := performs
  have next
      : (session.withOutput output prompt).world.input.next
        = (some performed.line, .ofLines (performed.text ++ unread)) := by
    show session.world.input.next = _
    rw [script]
    rfl
  have taken
      : (session.withOutput output prompt).withLineTaken
        = (session.reading (performed.text ++ unread)).withOutput (output ++ prompt.getD "")
          prompt := by
    simp only [withLineTaken, next]
    rfl
  have printed
      : (session.reading (performed.text ++ unread)).printed performed.line
        = performed.printed := by
    have output := (session.reading (performed.text ++ unread)).runLine_output performed.line
    rw [ran] at output
    exact (String.append_right_inj _).mp (output.symm.trans writes)
  rw [turn_of_some (congrArg Prod.fst next), taken, runLine_withOutput, ran, printed,
    String.append_assoc]

/-- A command that is performed takes a line from the script. -/
theorem Performs.pending_length_lt {performed : Performed}
    (performs : session.Performs performed outcome after unread)
    : after.world.input.pending.length < session.world.input.pending.length := by
  rw [performs.script, performs.left]
  simp only [Input.ofLines, Performed.lines, List.length_map, List.length_append,
    List.length_cons]
  omega

/-- A script has one first command only, because the line of a command and its session determine
what it does, and the lines that are left determine its text.
-/
theorem Performs.unique {performed other : Performed} {outcome otherOutcome : Outcome}
    {otherAfter : Session} {otherUnread : List String}
    (performs : session.Performs performed outcome after unread)
    (also : session.Performs other otherOutcome otherAfter otherUnread)
    : performed = other ∧ outcome = otherOutcome ∧ after = otherAfter ∧ unread = otherUnread := by
  obtain ⟨line, text, printed⟩ := performed
  obtain ⟨otherLine, otherText, otherPrinted⟩ := other
  have script := Input.ofLines_inj.mp (performs.script.symm.trans also.script)
  obtain ⟨rfl, behind⟩ := List.cons.inj script
  have ran := performs.ran
  rw [show text ++ unread = otherText ++ otherUnread from behind] at ran
  obtain ⟨rfl, rfl⟩ := Prod.mk.inj (ran.symm.trans also.ran)
  obtain rfl := Input.ofLines_inj.mp (performs.left.symm.trans also.left)
  obtain rfl := List.append_cancel_right behind
  obtain rfl := (String.append_right_inj _).mp (performs.writes.symm.trans also.writes)
  exact ⟨rfl, rfl, rfl, rfl⟩

/-- At the end of the script a turn only writes the prompt. -/
theorem turn_withOutput_of_ended (ended : session.world.input = .ofLines []) (output : String)
    (prompt : Option String)
    : (session.withOutput output prompt).turn
      = (.quit, session.withOutput (output ++ prompt.getD "") prompt) := by
  have next : (session.withOutput output prompt).world.input.next = (none, .ofLines []) := by
    show session.world.input.next = _
    rw [ended]
    rfl
  rw [turn_of_none (congrArg Prod.fst next), withLineTaken, next, ← ended]
  rfl

----------------------------------------------------------------------------------------
-- Runs
----------------------------------------------------------------------------------------

/-- The loop over a script: the next line is taken and run until a command quits or the script is
empty. It performs these commands, ends because the script does or because a command quits, and
leaves a session and the lines that are not read.
-/
inductive Iterates : Session → List Performed → Outcome → Session → List String → Prop
  | ended {session : Session} (empty : session.world.input = .ofLines [])
    : Iterates session [] .goOn session []
  | quit {session after : Session} {performed : Performed} {unread : List String}
    (performs : session.Performs performed .quit after unread)
    : Iterates session [performed] .quit after unread
  | next {session after last : Session} {performed : Performed} {commands : List Performed}
    {outcome : Outcome} {between unread : List String}
    (performs : session.Performs performed .goOn after between)
    (rest : Iterates after commands outcome last unread)
    : Iterates session (performed :: commands) outcome last unread

namespace Iterates

variable {commands : List Performed}

/-- The commands take all lines of the script that are read, each once and in order. -/
theorem lines_append (iterates : session.Iterates commands outcome last unread)
    : session.world.input = .ofLines (commands.flatMap Performed.lines ++ unread)
      ∧ last.world.input = .ofLines unread := by
  induction iterates with
  | ended empty => exact ⟨empty, empty⟩
  | quit performs => exact ⟨by simpa using performs.script, performs.left⟩
  | next performs _ ih =>
      obtain ⟨rest, left⟩ := ih
      have same := Input.ofLines_inj.mp (performs.left.symm.trans rest)
      refine ⟨?_, left⟩
      rw [performs.script, same, List.flatMap_cons, List.append_assoc]

/-- A loop over a script that can perform a command and go on starts with that one. -/
theorem of_performs {performed : Performed} {between : List String}
    (iterates : session.Iterates commands outcome last unread)
    (performs : session.Performs performed .goOn after between)
    : ∃ others, commands = performed :: others ∧ after.Iterates others outcome last unread := by
  cases iterates with
  | ended empty =>
      have none := Input.ofLines_inj.mp (performs.script.symm.trans empty)
      simp [Performed.lines] at none
  | quit other =>
      obtain ⟨_, goes, _⟩ := performs.unique other
      cases goes
  | next other rest =>
      obtain ⟨rfl, _, rfl, _⟩ := performs.unique other
      exact ⟨_, rfl, rest⟩

/-- Without a prompt the commands write one behind the other. -/
theorem output_eq (iterates : session.Iterates commands outcome last unread)
    : last.output = session.output ++ String.join (commands.map Performed.printed) := by
  induction iterates with
  | ended => simp
  | quit performs => simpa using performs.writes
  | next performs _ ih => rw [ih, performs.writes]; simp [String.append_assoc]

end Iterates

/-- What a run writes: the prompt and what the command writes, for every command, and the prompt
once more if no command quits.
-/
def written (prompt : String) (commands : List Performed) (outcome : Outcome) : String :=
  String.join (commands.map fun performed => prompt ++ performed.printed)
    ++ if outcome = .goOn then prompt else ""

variable {commands : List Performed}

theorem written_empty (commands : List Performed) (outcome : Outcome)
    : written "" commands outcome = String.join (commands.map Performed.printed) := by
  simp [written]

namespace Iterates

/-- A run with enough turns does what the loop does. -/
theorem runLines_eq {turns : Nat} (iterates : session.Iterates commands outcome last unread)
    (enough : session.world.input.pending.length < turns) (output : String)
    (prompt : Option String)
    : runLines turns (session.withOutput output prompt)
      = last.withOutput (output ++ written (prompt.getD "") commands outcome) prompt := by
  induction iterates generalizing turns output with
  | ended empty =>
      obtain ⟨turns, rfl⟩ := Nat.exists_eq_add_one_of_ne_zero (Nat.ne_zero_of_lt enough)
      rw [runLines_succ, turn_withOutput_of_ended empty]
      simp [written]
  | quit performs =>
      obtain ⟨turns, rfl⟩ := Nat.exists_eq_add_one_of_ne_zero (Nat.ne_zero_of_lt enough)
      rw [runLines_succ, performs.turn_withOutput]
      simp [written]
  | next performs _ ih =>
      obtain ⟨turns, rfl⟩ := Nat.exists_eq_add_one_of_ne_zero (Nat.ne_zero_of_lt enough)
      have fewer := performs.pending_length_lt
      rw [runLines_succ, performs.turn_withOutput]
      simp only [ih (by omega : _ < turns)]
      simp [written, String.append_assoc]

end Iterates

/-- The loop comes to an end on every script, by induction on the lines that are left. -/
theorem exists_iterates (reads : session.world.input = .ofLines script)
    : ∃ commands outcome last unread, session.Iterates commands outcome last unread := by
  induction size : script.length using Nat.strongRecOn generalizing session script with
  | ind size ih =>
      cases script with
      | nil => exact ⟨[], .goOn, session, [], .ended reads⟩
      | cons line behind =>
          cases ran : (session.reading behind).runLine line with
          | mk outcome after =>
              obtain ⟨text, unread, performs⟩ := exists_performs reads ran
              cases outcome with
              | quit => exact ⟨_, .quit, after, unread, .quit performs⟩
              | goOn =>
                  have fewer := performs.pending_length_lt
                  rw [reads, performs.left] at fewer
                  simp only [Input.ofLines, List.length_map, size] at fewer
                  obtain ⟨commands, outcome, last, left, rest⟩ :=
                    ih unread.length fewer performs.left rfl
                  exact ⟨_, outcome, last, left, .next performs rest⟩

/-- A run is the loop over the script, which comes to an end. The lines that are read are the
commands' own lines and their texts, each once and in order. With a prompt the run does the same
as without one, and only writes the prompt in front of every command, and at the end if no
command quits.
-/
theorem run_iterates (reads : session.world.input = .ofLines script)
    : (∃ commands outcome last unread, session.Iterates commands outcome last unread)
      ∧ ∀ commands outcome last unread,
          session.Iterates commands outcome last unread
          → script = commands.flatMap Performed.lines ++ unread
            ∧ last.world.input = .ofLines unread
            ∧ last.output = session.output ++ String.join (commands.map Performed.printed)
            ∧ ({ session with prompt := none }).run = { last with prompt := none }
            ∧ ∀ prompt,
                ({ session with prompt := some prompt }).run
                = { last with
                    prompt := some prompt
                    output := session.output ++ written prompt commands outcome } := by
  refine ⟨exists_iterates reads, fun commands outcome last unread iterates => ?_⟩
  obtain ⟨lines, left⟩ := iterates.lines_append
  have runs := iterates.runLines_eq (Nat.lt_succ_self _) session.output
  refine ⟨Input.ofLines_inj.mp (reads.symm.trans lines), left, iterates.output_eq, ?_, ?_⟩
  · have silent := runs none
    rw [Option.getD_none, written_empty, ← iterates.output_eq] at silent
    exact silent
  · intro prompt
    exact runs (some prompt)

/-- A text is entered, a line of it is printed and the session is quit, with a line still to be
read.
-/
theorem run_iterates_quitting
    : ∃ (session : Session) (commands : List Performed) (outcome : Outcome) (last : Session),
        session.world.input = .ofLines ["a", "x", ".", "n", "Q", "p"]
        ∧ session.Iterates commands outcome last ["p"]
        ∧ commands.flatMap Performed.lines = ["a", "x", ".", "n", "Q"]
        ∧ last.output = "1\tx\n"
        ∧ written "*" commands outcome = "**1\tx\n*" := by
  let session : Session :=
    { context := {}, world := ⟨.ofLines ["a", "x", ".", "n", "Q", "p"], {}⟩ }
  obtain ⟨⟨commands, outcome, last, unread, iterates⟩, loops⟩ :=
    run_iterates (show session.world.input = .ofLines ["a", "x", ".", "n", "Q", "p"] from rfl)
  obtain ⟨lines, left, _, silent, prompted⟩ := loops commands outcome last unread iterates
  have rest : last.world.input = .ofLines ["p"] :=
    (congrArg (·.world.input) silent).symm.trans (by decide +kernel)
  obtain rfl : unread = ["p"] := Input.ofLines_inj.mp (left.symm.trans rest)
  have silentOutput : last.output = "1\tx\n" :=
    (congrArg (·.output) silent).symm.trans (by decide +kernel)
  have promptedOutput : written "*" commands outcome = "**1\tx\n*" := by
    have output := congrArg (·.output) (prompted "*")
    rw [String.empty_append] at output
    exact output.symm.trans (by decide +kernel)
  exact ⟨session, commands, outcome, last, rfl, iterates,
    (List.append_cancel_right lines).symm, silentOutput, promptedOutput⟩

end Session

end LineEditor
