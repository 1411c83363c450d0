import LineEditor.Proofs.Command.UnaddressedLines
import LineEditor.Proofs.Execution.EnteredText
import LineEditor.Proofs.Session.PromptedRuns

/-! Text that is typed in a session. It is spliced into the lines as a whole, and none of its lines
is run as a command.
-/

namespace LineEditor

/-- A command that enters text is refused if it is to change lines where there are none, and then it
takes nothing from the input. Otherwise it enters the text of the input.
-/
theorem Command.run_of_input {command : Command} {buffer : Buffer} {mode : InputMode}
    (has : buffer.HasRange command.range) (operation : command.operation = .input mode)
    (world : World)
    : (mode = .change ∧ buffer.isEmpty
        → (command.plan buffer).run world = (buffer.refuse .badRange, world))
      ∧ (¬ (mode = .change ∧ buffer.isEmpty)
        → ∃ after left,
            (command.plan buffer).run world = ({ buffer := after }, { world with input := left })
            ∧ buffer.Entered command.range mode world.input.text after
            ∧ world.input.Leaves left) := by
  unfold plan
  rw [operation]
  constructor
  · rintro ⟨rfl, empty⟩
    simp [empty, Plan.run]
  · intro admitted
    have admitted : ¬ (decide (mode = .change) && buffer.isEmpty) = true := by
      simpa using admitted
    dsimp only
    rw [if_neg admitted]
    refine ⟨_, _, rfl, ?_, world.input.leaves_takeText⟩
    rw [← Input.takeText_eq]
    exact Buffer.entered_enterText has mode _

/-- The letter to append asks for text behind the current line. -/
theorem Context.readCommand_append {context : Context} (valid : context.buffer.DotValid)
    : context.readCommand "a"
      = (.ok ⟨.single context.buffer.dot, .input .append⟩, context.memory) := by
  have starts : "a".toList = ['a'] := rfl
  rw [context.readCommand_of_letter valid starts (by decide) (by decide),
    Context.readOperation_of_simple (by decide)]
  rfl

namespace Session

variable {session after : Session} {lines unread : List String}

/-- Lines with a dot behind them are taken from a script as a text. -/
theorem takeText_ofLines (dotless : "." ∉ lines)
    : (Input.ofLines (lines ++ ["."] ++ unread)).takeText = (lines, .ofLines unread) := by
  have dot : Input.textFrom (some "." :: unread.map some) = ([], unread.map some) := rfl
  simp only [Input.takeText, Input.ofLines, List.map_append, List.append_assoc, List.map_cons,
    List.singleton_append, Input.textFrom_append dotless, dot, List.append_nil]

/-- A script that starts by appending to an empty buffer performs that first. Its text are the lines
up to the dot, which are the lines of the buffer then.
-/
theorem performs_append (empty : session.context.buffer.isEmpty = true)
    (valid : session.context.buffer.DotValid) (dotless : "." ∉ lines)
    (reads : session.world.input = .ofLines ("a" :: (lines ++ ["."] ++ unread)))
    : ∃ after,
        session.Performs ⟨"a", lines ++ ["."], ""⟩ .goOn after unread
        ∧ after.context.buffer.lines = lines := by
  let typing := session.reading (lines ++ ["."] ++ unread)
  have read : typing.context.readCommand "a" = _ := Context.readCommand_append valid
  have takes : typing.takesText "a" = true := by
    rw [takesText, read]
    rfl
  have taking : typing.world.input.takeText = (lines, .ofLines unread) := takeText_ofLines dotless
  have left := typing.runLine_input "a"
  have writes := typing.runLine_output "a"
  have silent : typing.printed "a" = "" := by
    rw [printed, read]
    rfl
  obtain ⟨command, mode, found, operation, goes, entered⟩ := runLine_of_takesText takes
  rw [takes, if_pos rfl, taking] at left
  rw [taking] at entered
  rw [silent] at writes
  refine ⟨(typing.runLine "a").2, ⟨reads, Prod.ext goes rfl, left, Or.inr ?_, writes⟩, ?_⟩
  · exact ⟨command, mode, lines, found, operation, .dot dotless, entered⟩
  · obtain rfl : command = ⟨.single session.context.buffer.dot, .input .append⟩ := by
      rw [read] at found
      exact (Except.ok.inj found).symm
    have has : session.context.buffer.HasRange (.single session.context.buffer.dot) :=
      ⟨Nat.le_refl _, valid⟩
    rw [entered]
    exact (Buffer.entered_enterText has mode lines).lines_of_isEmpty empty

/-- Lines behind which there is a dot become the lines of an empty buffer that they are appended to,
and none of them is run as a command: the first command of any loop over such a script is the one
that appends, and the others are those of a loop over what is left.
-/
theorem iterates_append (empty : session.context.buffer.isEmpty = true)
    (valid : session.context.buffer.DotValid) (dotless : "." ∉ lines)
    (reads : session.world.input = .ofLines ("a" :: (lines ++ ["."] ++ unread)))
    : ∃ after,
        session.Performs ⟨"a", lines ++ ["."], ""⟩ .goOn after unread
        ∧ after.context.buffer.lines = lines
        ∧ (∀ commands outcome last rest,
          session.Iterates commands outcome last rest
          → ∃ others,
            commands = ⟨"a", lines ++ ["."], ""⟩ :: others
            ∧ after.Iterates others outcome last rest)
        ∧ (unread = [] → session.run.context = after.context) := by
  obtain ⟨after, performs, filled⟩ := performs_append empty valid dotless reads
  refine ⟨after, performs, filled, fun _ _ _ _ iterates => iterates.of_performs performs, ?_⟩
  rintro rfl
  have iterates := Iterates.next performs (.ended performs.left)
  exact congrArg (·.context)
    (iterates.runLines_eq (Nat.lt_succ_self _) session.output session.prompt)

/-- A command that enters text is refused if it is to change lines where there are none, and then it
takes nothing from the input. Otherwise the text that the input holds for it is spliced into the
lines of the buffer, and the input is left behind the dot, or behind the line that breaks the text
off, or empty. So lines behind which there is a dot become the lines of an empty buffer that they
are appended to, and none of them is run as a command.
-/
theorem text_spliced (command : Command) (buffer : Buffer) (mode : InputMode) (world : World)
    : (buffer.HasRange command.range
        → command.operation = .input mode
        → (mode = .change ∧ buffer.isEmpty
            → (command.plan buffer).run world = (buffer.refuse .badRange, world))
          ∧ (¬ (mode = .change ∧ buffer.isEmpty)
            → ∃ after left,
                (command.plan buffer).run world = ({ buffer := after }, { world with input := left })
                ∧ buffer.Entered command.range mode world.input.text after
                ∧ world.input.Leaves left))
      ∧ ∀ (session : Session) (lines unread : List String),
          session.context.buffer.isEmpty = true
          → session.context.buffer.DotValid
          → "." ∉ lines
          → session.world.input = .ofLines ("a" :: (lines ++ ["."] ++ unread))
          → ∃ after,
              session.Performs ⟨"a", lines ++ ["."], ""⟩ .goOn after unread
              ∧ after.context.buffer.lines = lines
              ∧ (∀ commands outcome last rest,
                session.Iterates commands outcome last rest
                → ∃ others,
                  commands = ⟨"a", lines ++ ["."], ""⟩ :: others
                  ∧ after.Iterates others outcome last rest)
              ∧ (unread = [] → session.run.context = after.context) := by
  constructor
  · intro has operation
    exact Command.run_of_input has operation world
  · intro session lines unread empty valid dotless reads
    exact iterates_append empty valid dotless reads

/-- Two lines take the place of the second one of three, and the input is left behind their dot.
Lines that look like commands are only typed.
-/
theorem text_spliced_in_the_middle
    : ∃ (world left : World) (after : Buffer) (session : Session),
        world.input = .ofLines ["x", "y", ".", "p"]
        ∧ (Command.plan ⟨⟨1, 1⟩, .input .change⟩ (.ofLines ["a", "b", "c"])).run world
          = ({ buffer := after }, left)
        ∧ after.lines = ["a", "x", "y", "c"]
        ∧ left.input = .ofLines ["p"]
        ∧ session.world.input = .ofLines ["a", "p", "Q", "."]
        ∧ session.run.context.buffer.lines = ["p", "Q"] := by
  let world : World := ⟨.ofLines ["x", "y", ".", "p"], {}⟩
  let session : Session := { context := {}, world := ⟨.ofLines ["a", "p", "Q", "."], {}⟩ }
  let command : Command := ⟨⟨1, 1⟩, .input .change⟩
  have has : (Buffer.ofLines ["a", "b", "c"]).HasRange command.range := by
    constructor <;> decide
  have operation : command.operation = .input .change := rfl
  obtain ⟨enters, appended⟩ := text_spliced command (.ofLines ["a", "b", "c"]) .change world
  obtain ⟨after, left, ran, spliced, _⟩ := (enters has operation).2 (by decide)
  obtain ⟨last, _, typed, _, ends⟩ :=
    appended session ["p", "Q"] [] rfl (Nat.le_refl _) (by decide) rfl
  have behind := congrArg (·.2.input) ran
  refine ⟨world, _, after, session, rfl, ran, spliced.lines, behind.symm, rfl, ?_⟩
  rw [ends rfl, typed]

/-- A text without a dot is broken off by a line that cannot be decoded. The input is not empty
then, and the line that is left is run as a command, which deletes the line typed before.
-/
theorem text_broken_off_in_front_of_command
    : ∃ session : Session,
        session.world.input = .ofBytes ⟨#[97, 10, 111, 110, 101, 10, 255, 10, 49, 100, 10]⟩
        ∧ some "." ∉ session.world.input.pending
        ∧ session.turn.2.context.buffer.lines = ["one"]
        ∧ session.turn.2.world.input = .ofLines ["1d"]
        ∧ session.run.context.buffer.lines = [] := by
  refine ⟨{
      context := {}
      world := ⟨.ofBytes ⟨#[97, 10, 111, 110, 101, 10, 255, 10, 49, 100, 10]⟩, {}⟩
    }, rfl, ?_, ?_, ?_, ?_⟩
  all_goals decide +kernel

end Session

end LineEditor
