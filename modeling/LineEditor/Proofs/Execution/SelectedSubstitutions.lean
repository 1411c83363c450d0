import LineEditor.Proofs.Command.UnaddressedLines
import LineEditor.Proofs.Execution.LineByLine
import LineEditor.Proofs.Text.Fields

/-! Substitutions in selected lines. Selecting the lines that match a pattern, and substituting in
them with the pattern taken over, is to substitute in the whole buffer: both are read alike, and
they differ only where no line matches, which the substitution alone reports.
-/

namespace LineEditor

open Text (Field)

----------------------------------------------------------------------------------------
-- Reading
----------------------------------------------------------------------------------------

/-- The arguments of a substitution behind its first slash. -/
def slashedArguments (pattern replacement options : List Char) : List Char :=
  pattern ++ '/' :: (replacement ++ '/' :: options)

/-- The options that stand for written ones: blank ones are the default. -/
def SubstituteOptions.orDefault (written : List Char) : List Char :=
  if Text.allBlank written then default.toList else written

namespace Context

variable {context : Context} {pattern replacement options : List Char}

/-- A substitution with a pattern that was found, with a replacement and options as written. -/
def finishSubstitution (context : Context) (compiled : Pattern) (replacement options : List Char)
    : Except EditError (Substitution × Memory) := do
  let replacement ← context.replacement '/' replacement
  let read ← SubstituteOptions.read (SubstituteOptions.orDefault options)
  return (⟨compiled, replacement, read⟩,
    context.memory.keepSubstitution compiled replacement
      (String.ofList (SubstituteOptions.orDefault options)))

/-- Arguments between slashes are cut where they were joined. -/
theorem cut_slashedArguments (holdsPattern : Field.Holds '/' pattern)
    (holdsReplacement : Field.Holds '/' replacement)
    : SubstituteArguments.cut '/' (slashedArguments pattern replacement options)
      = ⟨patternBody '/' pattern, replacement, SubstituteOptions.orDefault options⟩ := by
  simp only [SubstituteArguments.cut, slashedArguments,
    Field.cut_of_holds (by decide) holdsPattern,
    Field.cut_of_holds (by decide) holdsReplacement, SubstituteOptions.orDefault]
  cases Text.allBlank options <;> rfl

/-- A substitution finds its pattern and then its replacement and its options. -/
theorem readSubstitution_slashed (holdsPattern : Field.Holds '/' pattern)
    (holdsReplacement : Field.Holds '/' replacement)
    : context.readSubstitution ('/' :: slashedArguments pattern replacement options)
      = (do
        let compiled ← context.pattern (patternBody '/' pattern)
        context.finishSubstitution compiled replacement options) := by
  simp only [readSubstitution, cut_slashedArguments holdsPattern holdsReplacement,
    finishSubstitution]

/-- The pattern that was remembered last is the one that an empty body takes over. -/
theorem readSubstitution_taken (compiled : Pattern)
    (holdsReplacement : Field.Holds '/' replacement)
    : (context.withMemory (context.memory.keepSearch compiled)).readSubstitution
        ('/' :: slashedArguments [] replacement options)
      = context.finishSubstitution compiled replacement options := by
  rw [readSubstitution_slashed (Field.holds_nil (by decide)) holdsReplacement]
  rfl

/-- A substitution that is finished has the pattern that was found for it. -/
theorem pattern_of_finishSubstitution {compiled : Pattern} {substitution : Substitution}
    {memory : Memory}
    (finished
      : context.finishSubstitution compiled replacement options = .ok (substitution, memory))
    : substitution.pattern = compiled := by
  obtain ⟨_, _, rest⟩ := bind_eq_ok_iff.mp finished
  obtain ⟨_, _, result⟩ := bind_eq_ok_iff.mp rest
  cases result
  rfl

/-- What a substitution between slashes comes to: its pattern, its replacement and its options are
found in this order, or the first error of them.
-/
def slashedSubstitution (context : Context) (pattern replacement options : List Char)
    : Except EditError (Substitution × Memory) := do
  let compiled ← context.pattern (patternBody '/' pattern)
  context.finishSubstitution compiled replacement options

/-- The pattern of a substitution is the one that its body means. -/
theorem pattern_of_slashedSubstitution {substitution : Substitution} {memory : Memory}
    (result
      : context.slashedSubstitution pattern replacement options = .ok (substitution, memory))
    : context.pattern (patternBody '/' pattern) = .ok substitution.pattern := by
  obtain ⟨compiled, found, finished⟩ := bind_eq_ok_iff.mp result
  rwa [pattern_of_finishSubstitution finished]

/-- A substitution of its own is what it comes to. -/
theorem readOperation_substitution (holdsPattern : Field.Holds '/' pattern)
    (holdsReplacement : Field.Holds '/' replacement)
    : context.readOperation ('s' :: '/' :: slashedArguments pattern replacement options)
      = match context.slashedSubstitution pattern replacement options with
        | .error error => (.error error, context.memory)
        | .ok (substitution, memory) => (.ok (.each (.substitute substitution), []), memory) := by
  rw [readOperation_of_simple (by decide)]
  simp only [readSimple, readSubstitution_slashed holdsPattern holdsReplacement]
  rfl

/-- A substitution in the lines that match a pattern, which it takes over, is read as the same
substitution of its own, with the same errors and the same memory. The pattern is found before
the inner command is read, and an error in that puts the pattern before it back.
-/
theorem readOperation_selecting (holdsPattern : Field.Holds '/' pattern)
    (holdsReplacement : Field.Holds '/' replacement)
    : context.readOperation
        ('g' :: '/' :: (pattern ++ '/' :: 's' :: '/' :: slashedArguments [] replacement options))
      = match context.slashedSubstitution pattern replacement options with
        | .error error => (.error error, context.memory)
        | .ok (substitution, memory) =>
            (.ok (.global ⟨substitution.pattern, true, .substitute substitution⟩, []), memory) := by
  have field :=
    Field.cut_of_holds (by decide) holdsPattern
      ('s' :: '/' :: slashedArguments [] replacement options)
  unfold slashedSubstitution
  cases found : context.pattern (patternBody '/' pattern) with
  | error error =>
      have unread
          : context.readSelector 'g'
              ('/' :: (pattern ++ '/' :: 's' :: '/' :: slashedArguments [] replacement options))
            = .error error := by
        simp [readSelector, field, found, bind, Except.bind]
      rw [readOperation_of_unselected (Or.inl rfl) unread]
      rfl
  | ok compiled =>
      have read
          : context.readSelector 'g'
              ('/' :: (pattern ++ '/' :: 's' :: '/' :: slashedArguments [] replacement options))
            = .ok (compiled, 's' :: '/' :: slashedArguments [] replacement options) := by
        simp [readSelector, field, found, bind, Except.bind, pure, Except.pure]
      rw [readOperation_of_selected (Or.inl rfl) read, readOperation_of_simple (by decide)]
      simp only [readSimple, readSubstitution_taken compiled holdsReplacement, bind, Except.bind]
      cases finished : context.finishSubstitution compiled replacement options with
      | error error => rfl
      | ok finished' =>
          have taken := pattern_of_finishSubstitution finished
          simp [GlobalCommand.enclose, taken]

end Context

----------------------------------------------------------------------------------------
-- Running
----------------------------------------------------------------------------------------

/-- To select the lines that match and to substitute in them is to substitute, because a line that
is not selected would not be touched.
-/
theorem GlobalCommand.run_selecting (substitution : Substitution)
    : GlobalCommand.run ⟨substitution.pattern, true, .substitute substitution⟩
      = (LineCommand.substitute substitution).run := by
  funext index line
  unfold run selects
  have applies := substitution.isSome_apply line
  cases matched : substitution.pattern.isMatch line with
  | true => rfl
  | false =>
      rw [matched, Option.isSome_eq_false_iff, Option.isNone_iff_eq_none] at applies
      simp [LineCommand.run, applies]

namespace Buffer

variable {buffer : Buffer}

/-- The range of all lines is one of the buffer. -/
theorem hasRange_wholeRange (buffer : Buffer) : buffer.HasRange buffer.wholeRange :=
  ⟨Nat.zero_le _, Nat.le_refl _⟩

/-- The range of all lines has all lines. -/
theorem slice_wholeRange (buffer : Buffer) : buffer.slice buffer.wholeRange = buffer.lines := by
  have count : buffer.lines.length ≤ buffer.wholeRange.size := by
    show buffer.size ≤ buffer.size - 1 - 0 + 1
    omega
  exact List.take_of_length_le count

/-- Where a line matches, a substitution in the lines that match does what the substitution does. -/
theorem runGlobal_selecting_of_hit {substitution : Substitution}
    (filled : ¬ buffer.isEmpty = true)
    (hit : ∃ line ∈ buffer.lines, substitution.pattern.isMatch line = true)
    : buffer.runGlobal buffer.wholeRange
          ⟨substitution.pattern, true, .substitute substitution⟩
        = buffer.runEach buffer.wholeRange (.substitute substitution) := by
  have found : ¬ (Operation.each (.substitute substitution)).Misses
      (buffer.slice buffer.wholeRange) := by
    rintro ⟨_, same, missed⟩
    cases same
    obtain ⟨line, member, matched⟩ := hit
    rw [slice_wholeRange] at missed
    simp [missed line member] at matched
  rw [runEach_eq_change buffer.hasRange_wholeRange filled found, ← GlobalCommand.run_selecting]
  exact if_neg filled

/-- Where no line matches, a substitution in the lines that match does nothing and does not
fail.
-/
theorem runGlobal_selecting_of_missed {substitution : Substitution}
    (filled : ¬ buffer.isEmpty = true)
    (missed : ∀ line ∈ buffer.lines, substitution.pattern.isMatch line = false)
    : buffer.runGlobal buffer.wholeRange
          ⟨substitution.pattern, true, .substitute substitution⟩
        = { buffer := buffer } := by
  have none :=
    (Walk.along_replaced_eq_zero_iff substitution buffer.hasRange_wholeRange filled).mpr
      (buffer.slice_wholeRange.symm ▸ missed)
  unfold runGlobal
  rw [if_neg filled, GlobalCommand.run_selecting,
    Walk.along_eq_of_replaced_eq_zero (Walk.onlyReplaces_substitute substitution) none]
  rfl

end Buffer

----------------------------------------------------------------------------------------
-- Command lines
----------------------------------------------------------------------------------------

/-- The line that selects by a pattern and substitutes with the pattern taken over. -/
def selectingLine (pattern replacement options : String) : String :=
  "g/" ++ pattern ++ "/s//" ++ replacement ++ "/" ++ options

/-- The line that substitutes in the whole buffer. -/
def substitutingLine (pattern replacement options : String) : String :=
  ",s/" ++ pattern ++ "/" ++ replacement ++ "/" ++ options

namespace Context

/-- What the two lines are read as: the two operations on the whole buffer. -/
theorem readCommand_selectingLine {context : Context} {pattern replacement : String}
    (filled : ¬ context.buffer.isEmpty = true) (holdsPattern : Field.Holds '/' pattern.toList)
    (holdsReplacement : Field.Holds '/' replacement.toList) (options : String)
    : context.readCommand (selectingLine pattern replacement options)
        = match
            context.slashedSubstitution pattern.toList replacement.toList options.toList with
          | .error error => (.error error, context.memory)
          | .ok (substitution, memory) =>
              (.ok ⟨context.buffer.wholeRange,
                .global ⟨substitution.pattern, true, .substitute substitution⟩⟩, memory) := by
  have starts
      : (selectingLine pattern replacement options).toList
        = 'g' :: '/' :: (pattern.toList ++ '/' :: 's' :: '/' ::
          slashedArguments [] replacement.toList options.toList) := by
    simp [selectingLine, slashedArguments]
  rw [readCommand_of_global filled starts (Or.inl rfl),
    readOperation_selecting holdsPattern holdsReplacement]
  rcases context.slashedSubstitution pattern.toList replacement.toList options.toList with
    error | ⟨substitution, memory⟩ <;> rfl

theorem readCommand_substitutingLine {context : Context} {pattern replacement : String}
    (filled : ¬ context.buffer.isEmpty = true) (holdsPattern : Field.Holds '/' pattern.toList)
    (holdsReplacement : Field.Holds '/' replacement.toList) (options : String)
    : context.readCommand (substitutingLine pattern replacement options)
        = match
            context.slashedSubstitution pattern.toList replacement.toList options.toList with
          | .error error => (.error error, context.memory)
          | .ok (substitution, memory) =>
              (.ok ⟨context.buffer.wholeRange, .each (.substitute substitution)⟩, memory) := by
  have starts
      : (substitutingLine pattern replacement options).toList
        = ',' :: 's' :: '/' ::
          slashedArguments pattern.toList replacement.toList options.toList := by
    simp [substitutingLine, slashedArguments]
  rw [readCommand_of_comma filled starts (by decide),
    readOperation_substitution holdsPattern holdsReplacement]
  rcases context.slashedSubstitution pattern.toList replacement.toList options.toList with
    error | ⟨substitution, memory⟩ <;> rfl

/-- Selecting the lines that match a pattern and substituting in them with the pattern taken over
agrees with substituting in the whole buffer, whatever the pattern, the replacement and the
options. Both lines are refused with the same error or both are read, and both leave the same
memory. Both commands do the same where a line matches. Where none does, both leave the buffer
and print nothing, and the substitution alone fails.
-/
theorem selecting_agrees_with_substituting {context : Context} {pattern replacement : String}
    (filled : ¬ context.buffer.isEmpty = true) (holdsPattern : Field.Holds '/' pattern.toList)
    (holdsReplacement : Field.Holds '/' replacement.toList) (options : String) (world : World)
    : (∀ error,
        (context.readCommand (selectingLine pattern replacement options)).1 = .error error
        ↔ (context.readCommand (substitutingLine pattern replacement options)).1 = .error error)
      ∧ (context.readCommand (selectingLine pattern replacement options)).2
        = (context.readCommand (substitutingLine pattern replacement options)).2
      ∧ ∀ selecting substituting,
          (context.readCommand (selectingLine pattern replacement options)).1 = .ok selecting
          → (context.readCommand (substitutingLine pattern replacement options)).1
            = .ok substituting
          → ∃ compiled,
              context.pattern (patternBody '/' pattern.toList) = .ok compiled
              ∧ ((∃ line ∈ context.buffer.lines, compiled.isMatch line = true)
                → (selecting.plan context.buffer).run world
                  = (substituting.plan context.buffer).run world)
              ∧ ((∀ line ∈ context.buffer.lines, compiled.isMatch line = false)
                → (selecting.plan context.buffer).run world = ({ buffer := context.buffer }, world)
                  ∧ (substituting.plan context.buffer).run world
                    = (context.buffer.refuse .noMatch, world)) := by
  rw [readCommand_selectingLine filled holdsPattern holdsReplacement,
    readCommand_substitutingLine filled holdsPattern holdsReplacement]
  cases result
    : context.slashedSubstitution pattern.toList replacement.toList options.toList with
  | error error => exact ⟨fun _ => Iff.rfl, rfl, fun _ _ read => nomatch read⟩
  | ok result' =>
      obtain ⟨substitution, memory⟩ := result'
      refine ⟨fun _ => ⟨nofun, nofun⟩, rfl, ?_⟩
      rintro selecting substituting ⟨⟩ ⟨⟩
      refine ⟨_, pattern_of_slashedSubstitution result, ?_, ?_⟩
      · intro hit
        simp only [Command.plan, Plan.run, Buffer.runGlobal_selecting_of_hit filled hit]
      · intro missed
        have unmatched := Buffer.runEach_of_missed substitution
          context.buffer.hasRange_wholeRange filled (context.buffer.slice_wholeRange.symm ▸ missed)
        simp only [Command.plan, Plan.run, Buffer.runGlobal_selecting_of_missed filled missed,
          unmatched, and_self]

/-- A slash that is escaped in the pattern is replaced by what was put in last, with the default
options for a blank. Selecting finds it in the first of two lines, and does what substituting does.
-/
theorem selecting_agrees_with_substituting_recalled
    : ∃ context : Context,
        ¬ context.buffer.isEmpty = true
        ∧ Field.Holds '/' "\\/".toList
        ∧ Field.Holds '/' "%".toList
        ∧ ∃ selecting substituting,
          (context.readCommand "g/\\//s//%/ ").1 = .ok selecting
          ∧ (context.readCommand ",s/\\//%/ ").1 = .ok substituting
          ∧ (selecting.plan context.buffer).run ⟨⟨[]⟩, {}⟩
            = (substituting.plan context.buffer).run ⟨⟨[]⟩, {}⟩
          ∧ ((substituting.plan context.buffer).run ⟨⟨[]⟩, {}⟩).1.buffer.lines = ["xy", "c"] := by
  let context : Context := {
    buffer := .ofLines ["x/", "c"]
    memory := { replacement := some "y" }
  }
  let pattern : Pattern := ⟨"/", ⟨#[.accept, .one ⟨[(47, 47)]⟩ 0], 1⟩⟩
  let substitution : Substitution := ⟨pattern, "y", { print := true, chosen := 1 }⟩
  have filled : ¬ context.buffer.isEmpty = true := by decide
  have holdsPattern : Field.Holds '/' "\\/".toList := by
    unfold Field.Holds
    decide +kernel
  have holdsReplacement : Field.Holds '/' "%".toList := by
    unfold Field.Holds
    decide +kernel
  have selecting
      : (context.readCommand (selectingLine "\\/" "%" " ")).1
        = .ok ⟨⟨0, 1⟩, .global ⟨pattern, true, .substitute substitution⟩⟩ := by
    decide +kernel
  have substituting
      : (context.readCommand (substitutingLine "\\/" "%" " ")).1
        = .ok ⟨⟨0, 1⟩, .each (.substitute substitution)⟩ := by
    decide +kernel
  obtain ⟨compiled, found, agrees, _⟩ :=
    (selecting_agrees_with_substituting filled holdsPattern holdsReplacement " "
      ⟨⟨[]⟩, {}⟩).2.2 _ _ selecting substituting
  have same : compiled = pattern := by
    have known : context.pattern (patternBody '/' "\\/".toList) = .ok pattern := by decide +kernel
    rw [known] at found
    exact (Except.ok.inj found).symm
  have hit : ∃ line ∈ context.buffer.lines, compiled.isMatch line = true := by
    rw [same]
    exact ⟨"x/", by decide, by decide +kernel⟩
  exact ⟨context, filled, holdsPattern, holdsReplacement, _, _, selecting, substituting, agrees hit,
    by decide +kernel⟩

end Context

end LineEditor
