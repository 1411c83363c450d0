import LineEditor.Proofs.Command.RememberedSearches
import LineEditor.Proofs.Command.WrittenOptions
import LineEditor.Proofs.Text.Fields

/-! Repeated substitutions. What is remembered of a substitution can always be read again: its
options are kept as they were written, and no reading leaves options that a later one would refuse.
Whichever way the last substitution is repeated, it is the same, and it stays the last one.
-/

namespace LineEditor

open Text (Field allBlank)

----------------------------------------------------------------------------------------
-- Memories
----------------------------------------------------------------------------------------

namespace Memory

/-- There is a last replacement exactly if there are last options, and these can be read again. -/
structure Repeatable (memory : Memory) : Prop where
  together : memory.replacement.isSome ↔ memory.options.isSome
  filled : ∀ written, memory.options = some written → allBlank written.toList = false
  readable
    : ∀ written,
        memory.options = some written
        → ∃ options, SubstituteOptions.read written.toList = .ok options

/-- The memory holds a substitution, the options of which are those that it has as written. -/
structure Holds (memory : Memory) (substitution : Substitution) : Prop where
  search : memory.search = some substitution.pattern
  replacement : memory.replacement = some substitution.replacement
  options
    : ∃ written,
        memory.options = some written
        ∧ SubstituteOptions.read written.toList = .ok substitution.options

/-- The error for what a memory lacks, so that there is no last substitution. -/
inductive Lacks (memory : Memory) : EditError → Prop
  | pattern (none : memory.search = none) : Lacks memory .noPriorPattern
  | replacement (some : memory.search.isSome) (none : memory.replacement = none)
    : Lacks memory .noPriorReplacement

theorem Repeatable.of_sameSubstitution {memory left : Memory} (repeatable : memory.Repeatable)
    (same : left.SameSubstitution memory)
    : left.Repeatable := by
  obtain ⟨replacement, options⟩ := same
  obtain ⟨together, filled, readable⟩ := repeatable
  rw [← replacement, ← options] at together
  rw [← options] at filled readable
  exact ⟨together, filled, readable⟩

/-- A memory that can be repeated holds a substitution if it lacks nothing. -/
theorem Repeatable.lacks_or_holds {memory : Memory} (repeatable : memory.Repeatable)
    : (∃ error, memory.Lacks error) ∨ ∃ substitution, memory.Holds substitution := by
  cases search : memory.search with
  | none => exact Or.inl ⟨_, .pattern search⟩
  | some pattern =>
      cases replacement : memory.replacement with
      | none => exact Or.inl ⟨_, .replacement (by rw [search]; rfl) replacement⟩
      | some text =>
          have asked : memory.options.isSome := repeatable.together.mp (by rw [replacement]; rfl)
          obtain ⟨written, known⟩ := Option.isSome_iff_exists.mp asked
          obtain ⟨options, read⟩ := repeatable.readable written known
          exact Or.inr ⟨⟨pattern, text, options⟩, search, replacement, written, known, read⟩

end Memory

----------------------------------------------------------------------------------------
-- Accepted substitutions
----------------------------------------------------------------------------------------

/-- Written options that are blank are the default ones, so that no arguments have blank options. -/
theorem SubstituteArguments.allBlank_options (delimiter : Char) (text : List Char)
    : allBlank (cut delimiter text).options = false := by
  unfold cut
  dsimp only
  split
  · next written =>
      obtain ⟨_, filled⟩ := Bool.and_eq_true_iff.mp written
      simpa using filled
  · decide

namespace Context

variable {context : Context} {delimiter : Char} {text : List Char} {substitution : Substitution}
  {memory : Memory} {error : EditError} {written : String}

/-- Without text the last substitution is read, and the memory stays. -/
theorem readSubstitution_nil_eq_ok_iff
    : context.readSubstitution [] = .ok (substitution, memory)
      ↔ context.memory.search = some substitution.pattern
        ∧ context.memory.replacement = some substitution.replacement
        ∧ SubstituteOptions.read
            (context.memory.options.getD SubstituteOptions.default).toList
          = .ok substitution.options
        ∧ memory = context.memory := by
  simp only [readSubstitution, bind_eq_ok_iff, pure, Except.pure, Except.ok.injEq, Prod.mk.injEq]
  constructor
  · rintro ⟨found, repeated, rfl, rfl⟩
    unfold repeatSubstitution at repeated
    split at repeated
    · cases repeated
    · cases repeated
    · next search replacement =>
        obtain ⟨options, read, same⟩ := bind_eq_ok_iff.mp repeated
        obtain rfl := Except.ok.inj same
        exact ⟨search, replacement, read, rfl⟩
  · rintro ⟨search, replacement, read, rfl⟩
    refine ⟨substitution, ?_, rfl, rfl⟩
    simp only [repeatSubstitution, search, replacement, read]
    rfl

/-- A substitution with arguments is read part by part and then remembered. -/
theorem readSubstitution_cons_eq_ok_iff
    : context.readSubstitution (delimiter :: text) = .ok (substitution, memory)
      ↔ context.pattern (SubstituteArguments.cut delimiter text).pattern
          = .ok substitution.pattern
        ∧ context.replacement delimiter (SubstituteArguments.cut delimiter text).replacement
          = .ok substitution.replacement
        ∧ SubstituteOptions.read (SubstituteArguments.cut delimiter text).options
          = .ok substitution.options
        ∧ memory
          = context.memory.keepSubstitution substitution.pattern substitution.replacement
              (String.ofList (SubstituteArguments.cut delimiter text).options) := by
  simp only [readSubstitution, bind_eq_ok_iff, pure, Except.pure, Except.ok.injEq, Prod.mk.injEq]
  constructor
  · rintro ⟨pattern, found, replacement, meant, options, read, rfl, rfl⟩
    exact ⟨found, meant, read, rfl⟩
  · rintro ⟨found, meant, read, rfl⟩
    exact ⟨_, found, _, meant, _, read, rfl, rfl⟩

/-- An accepted substitution is the last one from then on, if the last one could be repeated. -/
theorem holds_of_readSubstitution (repeatable : context.memory.Repeatable)
    (read : context.readSubstitution text = .ok (substitution, memory))
    : memory.Holds substitution := by
  cases text with
  | nil =>
      obtain ⟨search, replacement, options, rfl⟩ := readSubstitution_nil_eq_ok_iff.mp read
      have asked : context.memory.options.isSome := by
        rw [← repeatable.together, replacement]
        rfl
      obtain ⟨written, known⟩ := Option.isSome_iff_exists.mp asked
      rw [known] at options
      exact ⟨search, replacement, written, known, options⟩
  | cons delimiter text =>
      obtain ⟨_, _, options, rfl⟩ := readSubstitution_cons_eq_ok_iff.mp read
      exact ⟨rfl, rfl, _, rfl, by rwa [String.toList_ofList]⟩

/-- What an accepted substitution leaves can be repeated, because its options are kept as written:
they have just been read, and they are the default ones where they would be blank.
-/
theorem repeatable_of_readSubstitution (repeatable : context.memory.Repeatable)
    (read : context.readSubstitution text = .ok (substitution, memory))
    : memory.Repeatable := by
  cases text with
  | nil =>
      obtain ⟨_, _, _, rfl⟩ := readSubstitution_nil_eq_ok_iff.mp read
      exact repeatable
  | cons delimiter text =>
      obtain ⟨_, _, options, rfl⟩ := readSubstitution_cons_eq_ok_iff.mp read
      refine ⟨by simp [Memory.keepSubstitution], ?_, ?_⟩
      · rintro written ⟨⟩
        rw [String.toList_ofList]
        exact SubstituteArguments.allBlank_options delimiter text
      · rintro written ⟨⟩
        exact ⟨_, by rwa [String.toList_ofList]⟩

----------------------------------------------------------------------------------------
-- Reached contexts
----------------------------------------------------------------------------------------

/-- The contexts that readings lead to, from those that remember nothing. Between two readings the
buffer may change.
-/
inductive Reached : Context → Prop
  | start (buffer : Buffer) (ignoreCase : Bool) : Reached ⟨buffer, ignoreCase, {}⟩
  | read {context after : Context} (before : Reached context) (step : context.ReadStep after)
    : Reached after
  | edited {context : Context} (before : Reached context) (buffer : Buffer)
    : Reached { context with buffer := buffer }

variable {after : Context}

/-- Reading an operation leaves a memory that can be repeated, whether it is accepted or refused.
Its last substitution is the one before, or one that was accepted as the innermost command.
-/
theorem repeatable_readOperation (repeatable : context.memory.Repeatable) (text : List Char)
    : (context.readOperation text).2.Repeatable := by
  by_cases inside : ∃ kept, context.Substitutes text kept
  · obtain ⟨kept, inside⟩ := inside
    have same := inside.sameSubstitution
    obtain ⟨inner, arguments, substitution, found, accepted⟩ := inside
    have before := repeatable.of_sameSubstitution (innermost_context found).2.2
    exact (repeatable_of_readSubstitution before accepted).of_sameSubstitution same
  · exact repeatable.of_sameSubstitution (readOperation_sameSubstitution (not_exists.mp inside))

theorem repeatable_readCommand (repeatable : context.memory.Repeatable) (line : String)
    : (context.readCommand line).2.Repeatable := by
  have addressed := repeatable.of_sameSubstitution (context.keeps_readRange line.toList).same
  unfold readCommand
  split
  · next found => rwa [found] at addressed
  · next addresses memory found =>
      rw [found] at addressed
      split
      · exact addressed
      · have operated
            : ((context.withMemory memory).readOperation addresses.rest).2.Repeatable :=
          repeatable_readOperation addressed _
        split
        next found => rwa [found] at operated
        next found => rwa [found] at operated

/-- No reading takes away that the memory can be repeated. -/
theorem ReadStep.repeatable (step : context.ReadStep after) (before : context.memory.Repeatable)
    : after.memory.Repeatable := by
  cases step with
  | command line => exact repeatable_readCommand before line
  | operation text => exact repeatable_readOperation before text
  | range text => exact before.of_sameSubstitution (context.keeps_readRange text).same
  | address slot text => exact before.of_sameSubstitution (context.keeps_readAddress slot text).same
  | substitution read => exact repeatable_of_readSubstitution before read
  | refused unread => exact before

/-- Every memory that readings lead to can be repeated, by induction on the readings. -/
theorem Reached.repeatable (reached : context.Reached) : context.memory.Repeatable := by
  induction reached with
  | start buffer ignoreCase => exact ⟨Iff.rfl, nofun, nofun⟩
  | read before step ih => exact step.repeatable ih
  | edited before buffer ih => exact ih

theorem readSubstitution_nil_of_lacks (lacks : context.memory.Lacks error)
    : context.readSubstitution [] = .error error := by
  cases lacks with
  | pattern none =>
      simp only [readSubstitution, repeatSubstitution, none]
      rfl
  | replacement some none =>
      obtain ⟨pattern, search⟩ := Option.isSome_iff_exists.mp some
      simp only [readSubstitution, repeatSubstitution, search, none]
      rfl

theorem readSubstitution_nil_of_holds (holds : context.memory.Holds substitution)
    : context.readSubstitution [] = .ok (substitution, context.memory) := by
  obtain ⟨search, replacement, written, known, read⟩ := holds
  exact readSubstitution_nil_eq_ok_iff.mpr ⟨search, replacement, by rwa [known], rfl⟩

/-- Where a memory can be repeated, the last substitution is refused only for what is missing. -/
theorem readSubstitution_nil_eq_error_iff (repeatable : context.memory.Repeatable)
    (error : EditError)
    : context.readSubstitution [] = .error error ↔ context.memory.Lacks error := by
  refine ⟨fun refused => ?_, readSubstitution_nil_of_lacks⟩
  rcases repeatable.lacks_or_holds with ⟨_, lacks⟩ | ⟨substitution, holds⟩
  · rw [readSubstitution_nil_of_lacks lacks] at refused
    obtain rfl := Except.error.inj refused
    exact lacks
  · rw [readSubstitution_nil_of_holds holds] at refused
    cases refused

/-- A substitution without arguments leaves the memory, whatever comes of it. -/
theorem readOperation_bare (context : Context)
    : context.readOperation ['s']
      = ((context.readSubstitution []).map fun accepted =>
          (.each (.substitute accepted.1), []), context.memory) := by
  rw [readOperation_of_simple (by decide)]
  cases read : context.readSubstitution [] with
  | error error =>
      simp only [readSimple, read]
      rfl
  | ok accepted =>
      obtain ⟨_, _, _, same⟩ := readSubstitution_nil_eq_ok_iff.mp read
      simp only [readSimple, read, same]
      rfl

/-- The last substitution can always be repeated. A replacement is remembered exactly if options
are, and these are neither blank nor refused when they are read again. So a substitution without
arguments is refused only where there is no last pattern, or no last replacement, and whatever
comes of it, the memory stays.
-/
theorem Reached.refused_only_for_lack (reached : context.Reached)
    : (context.memory.replacement.isSome ↔ context.memory.options.isSome)
      ∧ (∀ written,
          context.memory.options = some written
          → allBlank written.toList = false
            ∧ ∃ options, SubstituteOptions.read written.toList = .ok options)
      ∧ (∀ error,
          (context.readSubstitution [] = .error error ↔ context.memory.Lacks error)
          ∧ ((context.readOperation ['s']).1 = .error error ↔ context.memory.Lacks error))
      ∧ (∀ substitution memory,
          context.readSubstitution [] = .ok (substitution, memory) → memory = context.memory)
      ∧ (context.readOperation ['s']).2 = context.memory := by
  have repeatable := reached.repeatable
  refine ⟨repeatable.together, ?_, ?_, ?_, by rw [readOperation_bare]⟩
  · intro written known
    exact ⟨repeatable.filled written known, repeatable.readable written known⟩
  · intro error
    have refused := readSubstitution_nil_eq_error_iff repeatable error
    refine ⟨refused, ?_⟩
    rw [readOperation_bare, ← refused]
    cases context.readSubstitution [] <;> simp [Except.map]
  · intro substitution memory read
    obtain ⟨_, _, _, same⟩ := readSubstitution_nil_eq_ok_iff.mp read
    exact same

/-- A substitution inside two global commands is remembered though the command is refused. Its
options can be read again, and what a substitution without arguments lacks then is a pattern.
-/
theorem Reached.refused_only_for_lack_of_pattern
    : ∃ context : Context,
        context.Reached
        ∧ context.memory = { replacement := some "b", options := some " 2" }
        ∧ (∃ options, SubstituteOptions.read " 2".toList = .ok options)
        ∧ (context.readOperation ['s']).1 = .error .noPriorPattern
        ∧ (context.readOperation ['s']).2 = context.memory := by
  let context : Context :=
    ({} : Context).withMemory (({} : Context).readOperation "g/x/g/y/s/a/b/ 2".toList).2
  have reached : context.Reached := .read (.start {} false) (.operation _)
  have memory : context.memory = { replacement := some "b", options := some " 2" } := by
    decide +kernel
  obtain ⟨_, readable, refused, _, same⟩ := reached.refused_only_for_lack
  have lacks : context.memory.Lacks .noPriorPattern := .pattern (by rw [memory])
  have again := (readable " 2" (by rw [memory])).2
  exact ⟨context, reached, memory, again, (refused _).2.mpr lacks, same⟩

----------------------------------------------------------------------------------------
-- Repetitions
----------------------------------------------------------------------------------------

/-- The texts that repeat a substitution with options as written: no text at all, or no pattern, a
percent sign and the options, each behind its delimiter.
-/
inductive Repeats (written : String) : List Char → Prop
  | bare : Repeats written []
  | between {delimiter : Char} (simple : delimiter ≠ '\\') (other : delimiter ≠ '%')
    : Repeats written (delimiter :: delimiter :: '%' :: delimiter :: written.toList)

/-- Reads substitutions one after the other, each with the memory that the one before has left. -/
def readSubstitutions (context : Context)
    : List (List Char) → Except EditError (List Substitution × Memory)
  | [] => .ok ([], context.memory)
  | text :: texts => do
      let (substitution, memory) ← context.readSubstitution text
      let (later, memory) ← (context.withMemory memory).readSubstitutions texts
      return (substitution :: later, memory)

/-- No pattern and a percent sign are cut from the options behind them. -/
theorem cut_percent {options : List Char} (simple : delimiter ≠ '\\') (other : delimiter ≠ '%')
    (filled : allBlank options = false)
    : SubstituteArguments.cut delimiter (delimiter :: '%' :: delimiter :: options)
      = ⟨[], ['%'], options⟩ := by
  have percent : Field.cut delimiter ('%' :: delimiter :: options) = ⟨['%'], options, true⟩ := by
    rw [Field.cut_cons (by decide) other.symm, Field.cut_delimiter simple]
    rfl
  simp [SubstituteArguments.cut, Field.cut_delimiter simple, percent, filled, patternBody,
    Text.unescape]

/-- Every text that repeats the last substitution is read as it, and the memory stays. -/
theorem readSubstitution_of_repeats (holds : context.memory.Holds substitution)
    (known : context.memory.options = some written) (filled : allBlank written.toList = false)
    (repeats : Repeats written text)
    : context.readSubstitution text = .ok (substitution, context.memory) := by
  cases repeats with
  | bare => exact readSubstitution_nil_of_holds holds
  | @between delimiter simple other =>
      obtain ⟨search, replacement, _, same, read⟩ := holds
      obtain rfl := Option.some.inj (known.symm.trans same)
      refine readSubstitution_cons_eq_ok_iff.mpr ?_
      rw [cut_percent simple other filled]
      refine ⟨?_, ?_, read, ?_⟩
      · simp [Context.pattern, search]
      · simp [Context.replacement, replacement]
      · rw [Memory.keepSubstitution, String.ofList_toList, ← search, ← replacement, ← known]

/-- However often the last substitution is repeated, in whatever ways, it stays the same. -/
theorem readSubstitutions_of_repeats {texts : List (List Char)}
    (holds : context.memory.Holds substitution) (known : context.memory.options = some written)
    (filled : allBlank written.toList = false) (repeats : ∀ text ∈ texts, Repeats written text)
    : context.readSubstitutions texts
      = .ok (texts.map fun _ => substitution, context.memory) := by
  induction texts with
  | nil => rfl
  | cons text texts ih =>
      obtain ⟨first, others⟩ := List.forall_mem_cons.mp repeats
      have read := readSubstitution_of_repeats holds known filled first
      have later : (context.withMemory context.memory).readSubstitutions texts = _ := ih others
      simp only [readSubstitutions, read, bind, Except.bind, later]
      rfl

/-- All ways to repeat a substitution agree. Once a substitution has been read, in a context that
readings lead to, reading no text and reading a percent sign between any delimiters with the last
options both give the same pattern, the same replacement and the same options, and leave the memory
as it is. So do any number of such repetitions, one after the other.
-/
theorem Reached.repetitions_agree (reached : context.Reached)
    (read : context.readSubstitution text = .ok (substitution, memory))
    : ∃ written,
        memory.options = some written
        ∧ (∀ again,
            Repeats written again
            → (context.withMemory memory).readSubstitution again = .ok (substitution, memory))
        ∧ ∀ texts,
            (∀ again ∈ texts, Repeats written again)
            → (context.withMemory memory).readSubstitutions texts
              = .ok (texts.map fun _ => substitution, memory) := by
  have holds : (context.withMemory memory).memory.Holds substitution :=
    holds_of_readSubstitution reached.repeatable read
  have repeatable : (context.withMemory memory).memory.Repeatable :=
    repeatable_of_readSubstitution reached.repeatable read
  obtain ⟨written, known, _⟩ := holds.options
  have filled := repeatable.filled written known
  refine ⟨written, known, ?_, ?_⟩
  · intro again repeats
    exact readSubstitution_of_repeats holds known filled repeats
  · intro texts repeats
    exact readSubstitutions_of_repeats holds known filled repeats

/-- A percent sign stands for a replacement with a slash in it, which was escaped when it was read.
It is repeated without arguments, between slashes and between digits that are options as well.
-/
theorem Reached.repetitions_agree_between_digits
    : ∃ (context : Context) (substitution : Substitution) (memory : Memory),
        context.Reached
        ∧ context.readSubstitution ",b,%, 2p".toList = .ok (substitution, memory)
        ∧ substitution.replacement = "x/y"
        ∧ (context.withMemory memory).readSubstitution "22%2 2p".toList = .ok (substitution, memory)
        ∧ (context.withMemory memory).readSubstitutions ["//%/ 2p".toList, [], "22%2 2p".toList]
          = .ok ([substitution, substitution, substitution], memory) := by
  let context : Context :=
    ({} : Context).withMemory (({} : Context).readOperation "s/a/x\\/y/".toList).2
  let substitution : Substitution := {
    pattern := ⟨"b", ⟨#[.accept, .one ⟨[(98, 98)]⟩ 0], 1⟩⟩
    replacement := "x/y"
    options := { print := true, chosen := 2 }
  }
  let memory : Memory := ⟨some substitution.pattern, some "x/y", some " 2p"⟩
  have reached : context.Reached := .read (.start {} false) (.operation _)
  have read : context.readSubstitution ",b,%, 2p".toList = .ok (substitution, memory) := by
    decide +kernel
  obtain ⟨written, known, once, often⟩ := reached.repetitions_agree read
  obtain rfl : " 2p" = written := Option.some.inj known
  have slashes : Repeats " 2p" "//%/ 2p".toList := .between (by decide) (by decide)
  have digits : Repeats " 2p" "22%2 2p".toList := .between (by decide) (by decide)
  refine ⟨context, substitution, memory, reached, read, rfl, once _ digits, often _ ?_⟩
  simpa [Repeats.bare] using ⟨slashes, digits⟩

end Context

end LineEditor
