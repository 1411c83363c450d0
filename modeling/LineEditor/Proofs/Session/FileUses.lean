import LineEditor.Proofs.Files.ReplacedFiles
import LineEditor.Proofs.Session.CurrentLine
import LineEditor.Proofs.Session.TakenLines

/-! What a session does with files. Only a command that writes, and goes well, changes the tree, and
then only the file that its path denotes. The file that was read or written last is the one that a
command without a path means.
-/

namespace LineEditor

open Text (allBlank isBlank trim)

/-- A file that was read or written at a path. -/
inductive FileUse where
  | loaded (path : String)
  | stored (path : String) (lines : List String)
  deriving DecidableEq, Repr

namespace FileUse

def path : FileUse → String
  | loaded path | stored path _ => path

/-- The path and the lines that were written. -/
def written? : FileUse → Option (String × List String)
  | loaded _ => none
  | stored path lines => some (path, lines)

end FileUse

/-- What a command on a buffer does with a file if it goes well. A file is written with all lines of
the buffer, whatever the range is.
-/
def Command.fileUse? (command : Command) (buffer : Buffer) : Option FileUse :=
  match command.operation with
  | .read path => some (.loaded path)
  | .write path => some (.stored path buffer.lines)
  | _ => none

namespace Session

/-- What a command line does with a file. A line that reports an error does nothing. -/
def fileUse? (session : Session) (line : String) : Option FileUse :=
  match (session.context.readCommand line).1, session.failure? line with
  | .ok command, none => command.fileUse? session.context.buffer
  | _, _ => none

/-- What opening a file does with it. -/
def openUse? (session : Session) (path : String) : Option FileUse :=
  match session.world.files.load path with
  | .ok _ => some (.loaded path)
  | .error _ => none

/-- What a step of a session does with a file, and what it leaves: a tree and the name of the
buffer's file.
-/
inductive Touches (before : Session) : Option FileUse → Session → Prop
  | stored {path lines place after}
    (files : before.world.files.Replaces path lines place after.world.files)
    (named : after.context.buffer.filename = some path)
    : Touches before (some (.stored path lines)) after
  | loaded {path after} (files : after.world.files = before.world.files)
    (named : after.context.buffer.filename = some path)
    : Touches before (some (.loaded path)) after
  | nothing {after} (files : after.world.files = before.world.files)
    (named
      : ∀ name,
          before.context.buffer.filename = some name
          → after.context.buffer.filename = some name)
    : Touches before none after

/-- The second session comes from the first one by opening files and running command lines, well or
badly ended, which have used these files in order. The input, the output and the prompt may become
others in between, and so may the names that the system draws for drafts and what it refuses.
-/
inductive Uses (start : Session) : List FileUse → Session → Prop
  | refl : Uses start [] start
  | opened {uses session} (before : Uses start uses session) (path : String)
    : Uses start (uses ++ (session.openUse? path).toList) (session.open path)
  | ran {uses session} (before : Uses start uses session) (line : String)
    : Uses start (uses ++ (session.fileUse? line).toList) (session.runLine line).2
  | around {uses session other draftNames refusals} (before : Uses start uses session)
    (context : other.context = session.context)
    (files : other.world.files = session.world.files.withSystem draftNames refusals)
    : Uses start uses other

variable {start session other after : Session} {line path name : String} {uses more : List FileUse}
  {use? : Option FileUse} {command : Command} {change : Change} {world : World} {outcome : Outcome}

----------------------------------------------------------------------------------------
-- Single steps
----------------------------------------------------------------------------------------

theorem fileUse?_of_failure {error : EditError} (failed : session.failure? line = some error)
    : session.fileUse? line = none := by
  simp [fileUse?, failed]

theorem Runs.fileUse?_eq (runs : session.Runs line command change world outcome)
    (well : session.failure? line = none)
    : session.fileUse? line = command.fileUse? session.context.buffer := by
  simp [fileUse?, runs.read, well]

theorem runLine_touches (session : Session) (line : String)
    : session.Touches (session.fileUse? line) (session.runLine line).2 := by
  cases failed : session.failure? line with
  | some error =>
      rw [fileUse?_of_failure failed, runLine_of_failure failed]
      exact .nothing rfl fun _ same => same
  | none =>
      obtain ⟨command, change, world, outcome, runs⟩ := runs_of_failure?_eq_none failed
      rw [runs.fileUse?_eq failed, runs.ran]
      cases runs.ends with
      | failed error => cases runs.result
      | edited noFile edited =>
          have none : command.fileUse? session.context.buffer = none := by
            unfold Command.fileUse?
            unfold Operation.usesFiles at noFile
            split <;> simp_all
          rw [none]
          exact .nothing rfl fun _ same => edited.filename.trans same
      | @entered mode input =>
          have edited := session.context.buffer.enterText_edited command.range mode
            session.world.input.takeText.1
          simp only [Command.fileUse?, input]
          exact .nothing rfl fun _ same => edited.filename.trans same
      | loaded read =>
          simp only [Command.fileUse?, read]
          exact .loaded rfl rfl
      | saved write stored =>
          obtain ⟨place, replaces⟩ := FileTree.replaces_of_save stored
          simp only [Command.fileUse?, write]
          exact .stored replaces rfl
      | quit quits =>
          simp only [Command.fileUse?, quits]
          exact .nothing rfl fun _ same => same

theorem open_touches (session : Session) (path : String)
    : session.Touches (session.openUse? path) (session.open path) := by
  unfold openUse? Session.open
  cases session.world.files.load path with
  | ok text => exact .loaded rfl rfl
  | error error =>
      refine .nothing rfl fun name named => ?_
      show (if session.context.buffer.filename.isNone then _ else _ : Buffer).filename = _
      rwa [named, if_neg (by simp)]

/-- Without a path the command that writes means the file of the buffer. -/
theorem readCommand_write {addresses : Addresses} {memory : Memory} {range : LineRange}
    {blanks : List Char} (named : session.context.buffer.filename = some name)
    (front : session.context.readRange line.toList = (.ok addresses, memory))
    (letter : addresses.rest = 'w' :: blanks) (blank : allBlank blanks = true)
    (found : session.context.commandRange addresses = .ok range)
    : session.context.readCommand line = (.ok ⟨range, .write name⟩, memory) := by
  have unsuffixed : blanks.head?.any (fun c => !isBlank c) = false := by
    rcases blanks with _ | ⟨c, blanks⟩
    · rfl
    · simp_all [allBlank]
  have argument : session.context.buffer.fileArgument 'w' blanks = .ok name := by
    simp [Buffer.fileArgument, unsuffixed, Text.trim_eq_nil_iff.mpr blank, named]
  rw [Context.readCommand_of_commandRange rfl front found, letter,
    Context.readOperation_of_simple (by decide)]
  simp only [Context.readSimple, Context.withMemory, argument]
  rfl

----------------------------------------------------------------------------------------
-- Runs
----------------------------------------------------------------------------------------

theorem Uses.runLine (before : start.Uses uses session) (found : session.fileUse? line = use?)
    : start.Uses (uses ++ use?.toList) (session.runLine line).2 :=
  found ▸ before.ran line

theorem Uses.trans (first : start.Uses uses session) (second : session.Uses more after)
    : start.Uses (uses ++ more) after := by
  induction second with
  | refl => simpa using first
  | opened _ path ih => simpa only [List.append_assoc] using ih.opened path
  | ran _ line ih => simpa only [List.append_assoc] using ih.ran line
  | around _ context files ih => exact ih.around context files

theorem Uses.turn (session : Session) : ∃ uses, session.Uses uses session.turn.2 := by
  let files := session.world.files
  have same : files = files.withSystem files.draftNames files.refusals := rfl
  have taken : session.Uses [] session.withLineTaken := .around .refl rfl same
  rcases session.world.input.next_eq_none_or with none | ⟨line, pending, lines⟩
  · rw [turn_of_none none]
    exact ⟨_, taken⟩
  · have next : session.world.input.next.1 = some line := by simp only [Input.next, lines]
    rw [turn_of_some next]
    exact ⟨_, taken.ran line⟩

theorem exists_uses_runLines (turns : Nat) (session : Session)
    : ∃ uses, session.Uses uses (runLines turns session) := by
  induction turns generalizing session with
  | zero => exact ⟨[], .refl⟩
  | succ turns ih =>
      obtain ⟨first, step⟩ := Uses.turn session
      rw [runLines_succ]
      rcases turn : session.turn with ⟨_ | _, after⟩
      · rw [turn] at step
        obtain ⟨rest, steps⟩ := ih after
        exact ⟨first ++ rest, step.trans steps⟩
      · rw [turn] at step
        exact ⟨first, step⟩

/-- What has come about by using files in order: the tree is the one of the start with the files
that were written, and the buffer belongs to the file that was used last.
-/
structure Traced (start : Session) (uses : List FileUse) (session : Session) : Prop where
  files : start.world.files.Rewritten (uses.filterMap FileUse.written?) session.world.files
  named
    : ∀ use, uses.getLast? = some use → session.context.buffer.filename = some use.path

theorem Traced.step (traced : start.Traced uses session) (touches : session.Touches use? after)
    : start.Traced (uses ++ use?.toList) after := by
  obtain ⟨files, named⟩ := traced
  cases touches with
  | stored replaces name =>
      constructor
      · simpa [FileUse.written?] using files.write replaces
      · rintro use last
        obtain rfl : _ = use := by simpa using last
        exact name
  | loaded same name =>
      constructor
      · simpa [List.filterMap_cons, FileUse.written?, same] using files
      · rintro use last
        obtain rfl : _ = use := by simpa using last
        exact name
  | nothing same keeps =>
      constructor
      · simpa [same] using files
      · intro use last
        exact keeps _ (named use (by simpa using last))

theorem Uses.traced (used : start.Uses uses session) : start.Traced uses session := by
  induction used with
  | refl => exact ⟨.refl, by simp⟩
  | opened _ path ih => exact ih.step (open_touches _ path)
  | ran _ line ih => exact ih.step (runLine_touches _ line)
  | around _ context files ih =>
      constructor
      · rw [files]
        exact ih.files.around _ _
      · rw [context]
        exact ih.named

end Session

end LineEditor
