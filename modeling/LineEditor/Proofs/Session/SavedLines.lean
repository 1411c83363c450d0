import LineEditor.Proofs.Command.GuardedLetters
import LineEditor.Proofs.Session.FailedLines

/-! Saved lines. Through any number of command lines, a buffer without unsaved changes has the
lines that were last read from a file or written to one, so that leaving and reading a file never
lose a line that was edited.
-/

namespace LineEditor

namespace Session

/-- The saved lines after a command line: those of the buffer where the line has read or written a
file, and the ones before it otherwise.
-/
def savedAfter (session : Session) (line : String) (saved : List String) : List String :=
  match (session.context.readCommand line).1, session.failure? line with
  | .ok command, none =>
      if command.operation.usesFiles then (session.runLine line).2.context.buffer.lines
      else saved
  | _, _ => saved

/-- The session comes from one with saved lines by command lines, well or badly ended, and these
are the saved lines now. What surrounds the buffer and the memory may change in between.
-/
inductive Tracked : Session → List String → Prop
  | start {session} (built : session.context.buffer.Built)
    (clean : session.context.buffer.dirty = false)
    : Tracked session session.context.buffer.lines
  | runLine {session saved} (before : Tracked session saved) (line : String)
    : Tracked (session.runLine line).2 (session.savedAfter line saved)
  | around {session other saved} (before : Tracked session saved)
    (same : other.context = session.context)
    : Tracked other saved

/-- What every command line keeps: the current line is valid, and without unsaved changes the
lines are the saved ones.
-/
structure Kept (session : Session) (saved : List String) : Prop where
  current : session.context.buffer.DotValid
  lines : session.context.buffer.dirty = false → session.context.buffer.lines = saved

variable {session : Session} {line : String} {saved : List String}

----------------------------------------------------------------------------------------
-- Single command lines
----------------------------------------------------------------------------------------

/-- A line that fails leaves the saved lines. -/
theorem savedAfter_of_failure {error : EditError} (failed : session.failure? line = some error)
    : session.savedAfter line saved = saved := by
  unfold savedAfter
  rw [failed]
  split
  · next none => cases none
  · rfl

/-- A line that goes well saves the lines of the buffer if its command uses a file. -/
theorem Runs.savedAfter {command : Command} {change : Change} {world : World}
    {outcome : Outcome} (runs : session.Runs line command change world outcome)
    (well : session.failure? line = none)
    : session.savedAfter line saved
      = if command.operation.usesFiles then change.buffer.lines else saved := by
  unfold Session.savedAfter
  rw [runs.read, well, runs.ran]
  rfl

/-- Every command line keeps the invariant. A line that fails leaves the buffer; a command on the
buffer edits it, and edits without unsaved changes leave the lines; a command on a file makes the
lines of the buffer the saved ones.
-/
theorem Kept.runLine (kept : session.Kept saved) (line : String)
    : (session.runLine line).2.Kept (session.savedAfter line saved) := by
  cases failed : session.failure? line with
  | some error =>
      rw [runLine_of_failure failed, savedAfter_of_failure failed]
      exact { current := kept.current, lines := kept.lines }
  | none =>
      obtain ⟨command, change, world, outcome, runs⟩ := runs_of_failure?_eq_none failed
      rw [runs.savedAfter failed, runs.ran]
      refine { current := runs.ends.dotValid kept.current, lines := ?_ }
      intro clean
      split
      · rfl
      · next noFile =>
          have edited := runs.ends.buffer_edited (Bool.eq_false_iff.mpr noFile)
          obtain ⟨before, same⟩ := edited.clean clean
          exact same.trans (kept.lines before)

/-- The invariant holds after any number of command lines, by induction on them. -/
theorem Tracked.kept (tracked : session.Tracked saved) : session.Kept saved := by
  induction tracked with
  | start built _ => exact { current := built.dotValid, lines := fun _ => rfl }
  | runLine _ line ih => exact ih.runLine line
  | around _ same ih =>
      constructor
      · rw [same]
        exact ih.current
      · rw [same]
        exact ih.lines

----------------------------------------------------------------------------------------
-- Leaving and reading
----------------------------------------------------------------------------------------

/-- A line that is refused while it is read fails. -/
theorem failure?_of_unread {error : EditError}
    (unread : (session.context.readCommand line).1 = .error error)
    : session.failure? line = some error := by
  simp only [failure?, unread]

/-- A line that does not fail has been read. -/
theorem read_of_failure?_eq_none (well : session.failure? line = none)
    : ∃ command, (session.context.readCommand line).1 = .ok command := by
  obtain ⟨command, _, _, _, runs⟩ := runs_of_failure?_eq_none well
  exact ⟨command, runs.read⟩

/-- A line that quits does not fail, because a failure goes on. -/
theorem failure?_eq_none_of_quit (quits : (session.runLine line).1 = .quit)
    : session.failure? line = none := by
  cases failed : session.failure? line with
  | none => rfl
  | some error =>
      rw [runLine_of_failure failed] at quits
      cases quits

/-- Over unsaved changes a guarded letter is refused, because it is read without them only. -/
theorem failure?_of_dirty {letter : Char} (guarded : IsGuardedLetter letter)
    (found : session.context.operationLetter? line = some letter)
    (dirty : session.context.buffer.dirty = true)
    : ∃ error, session.failure? line = some error := by
  cases read : (session.context.readCommand line).1 with
  | error error => exact ⟨error, failure?_of_unread read⟩
  | ok command =>
      have clean := Context.clean_of_readCommand guarded found read
      rw [dirty] at clean
      cases clean

/-- A guarded letter that is accepted finds the saved lines in the buffer. -/
theorem Kept.lines_of_accepted {letter : Char} (kept : session.Kept saved)
    (guarded : IsGuardedLetter letter)
    (found : session.context.operationLetter? line = some letter)
    (well : session.failure? line = none)
    : session.context.buffer.lines = saved := by
  obtain ⟨command, read⟩ := read_of_failure?_eq_none well
  exact kept.lines (Context.clean_of_readCommand guarded found read)

/-- Without unsaved changes the line that leaves does so. -/
theorem Kept.runLine_quit (kept : session.Kept saved)
    (clean : session.context.buffer.dirty = false)
    : (session.runLine "q").1 = .quit := by
  rw [runLine_of_read (Context.readCommand_quit kept.current clean)]
  rfl

/-- After any number of command lines, a buffer without unsaved changes has the saved lines. So a
letter that leaves, and a letter that puts a file in the place of the lines, do so over the saved
lines only; over unsaved changes both fail and leave the buffer; and without unsaved changes
the line that leaves does so.
-/
theorem Tracked.saved_or_refused (tracked : session.Tracked saved) (line : String)
    : (session.context.buffer.dirty = false → session.context.buffer.lines = saved)
      ∧ (session.context.operationLetter? line = some 'q'
        → (session.runLine line).1 = .quit
        → session.context.buffer.lines = saved)
      ∧ (session.context.operationLetter? line = some 'r'
        → session.failure? line = none
        → session.context.buffer.lines = saved)
      ∧ (session.context.buffer.dirty = true
        → session.context.operationLetter? line = some 'q'
          ∨ session.context.operationLetter? line = some 'r'
        → (∃ error, session.failure? line = some error)
          ∧ (session.runLine line).1 = .goOn
          ∧ (session.runLine line).2.context.buffer = session.context.buffer)
      ∧ (session.context.buffer.dirty = false → (session.runLine "q").1 = .quit) := by
  have kept := tracked.kept
  refine ⟨kept.lines, ?_, ?_, ?_, kept.runLine_quit⟩
  · intro found quits
    exact kept.lines_of_accepted (Or.inl rfl) found (failure?_eq_none_of_quit quits)
  · intro found well
    exact kept.lines_of_accepted (Or.inr rfl) found well
  · intro dirty found
    obtain ⟨error, failed⟩ : ∃ error, session.failure? line = some error := by
      rcases found with found | found
      · exact failure?_of_dirty (Or.inl rfl) found dirty
      · exact failure?_of_dirty (Or.inr rfl) found dirty
    refine ⟨⟨error, failed⟩, ?_⟩
    rw [runLine_of_failure failed]
    exact ⟨rfl, rfl⟩

/-- Of two lines one is deleted and the other written. The letter that leaves is refused in
between, and goes well after that over the line that was written.
-/
theorem Tracked.saved_or_refused_writing
    : ∃ edited : Session,
        edited.Tracked ["a", "b"]
        ∧ edited.context.buffer.dirty = true
        ∧ (edited.runLine "q").1 = .goOn
        ∧ (edited.runLine "w f").2.Tracked ["b"]
        ∧ (edited.runLine "w f").2.context.buffer.lines = ["b"]
        ∧ ((edited.runLine "w f").2.runLine "q").1 = .quit := by
  let session : Session := { context := { buffer := .ofLines ["a", "b"] }, world := ⟨⟨[]⟩, {}⟩ }
  have start : session.Tracked ["a", "b"] := .start (Buffer.built_ofLines ["a", "b"]) rfl
  have edited : (session.runLine "1d").2.Tracked ["a", "b"] := by
    have unsaved : session.savedAfter "1d" ["a", "b"] = ["a", "b"] := by decide +kernel
    simpa only [unsaved] using start.runLine "1d"
  have written : ((session.runLine "1d").2.runLine "w f").2.Tracked ["b"] := by
    have saved : (session.runLine "1d").2.savedAfter "w f" ["a", "b"] = ["b"] := by decide +kernel
    simpa only [saved] using edited.runLine "w f"
  have dirty : (session.runLine "1d").2.context.buffer.dirty = true := by decide +kernel
  have clean : ((session.runLine "1d").2.runLine "w f").2.context.buffer.dirty = false := by decide +kernel
  have letter : (session.runLine "1d").2.context.operationLetter? "q" = some 'q' := by decide +kernel
  refine ⟨_, edited, dirty, ?_, written, ?_, ?_⟩
  · exact ((edited.saved_or_refused "q").2.2.2.1 dirty (Or.inl letter)).2.1
  · exact (written.saved_or_refused "q").1 clean
  · exact (written.saved_or_refused "q").2.2.2.2 clean

end Session

end LineEditor
