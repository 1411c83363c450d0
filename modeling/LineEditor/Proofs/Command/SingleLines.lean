import Mathlib.Data.List.TakeDrop
import LineEditor.Command.Basic
import LineEditor.Proofs.Text.SingleLines

/-! Command lines are read into single lines. A reader only hands on parts of the line that it
reads, the name of the buffer's file and texts of the memory; so with these on single lines,
everything that a command holds, what is remembered and the message of every error are single
lines too.
-/

namespace LineEditor

open Text (Field SingleLine isBlank trim trim_subset unescape unescape_subset singleLine_append
  singleLine_ofList singleLine_summary)

----------------------------------------------------------------------------------------
-- Messages
----------------------------------------------------------------------------------------

namespace PatternFault

theorem singleLine_message (fault : PatternFault) : SingleLine fault.message := by
  unfold message
  split
  · exact singleLine_ofList.mpr (by decide)
  · exact singleLine_summary _

theorem singleLine_explanation (fault : PatternFault) : SingleLine fault.explanation := by
  cases fault with
  | nestingTooDeep | tooLarge => decide +kernel
  | boundaryUnknown | boundaryAtEnd =>
      refine singleLine_append.mpr ⟨?_, ?_⟩
      · exact singleLine_ofList.mpr (by decide)
      · exact singleLine_ofList.mpr (by decide)
  | _ => exact singleLine_ofList.mpr (by decide)

/-- What a report comes to does not depend on the place in the pattern that it shows. -/
theorem summary_report {fault : PatternFault} (engine : fault ≠ .unterminated)
    (excerpt : List String)
    : Text.summary (fault.report excerpt) = fault.message := by
  have single : SingleLine ("error: " ++ fault.explanation) :=
    singleLine_append.mpr ⟨singleLine_ofList.mpr (by decide), fault.singleLine_explanation⟩
  have filled : trim ("error: " ++ fault.explanation).toList ≠ [] := by
    rw [Ne, Text.trim_eq_nil_iff]
    simp [Text.allBlank, isBlank]
  have last (front : List String)
      : "\n".intercalate ("regex parse error:" :: front ++ ["error: " ++ fault.explanation])
        = "\n".intercalate ("regex parse error:" :: front) ++ "\n"
          ++ ("error: " ++ fault.explanation) := by
    rw [String.intercalate_append_of_ne_nil (List.cons_ne_nil _ _) (List.cons_ne_nil _ _),
      String.intercalate_singleton]
  cases fault with
  | unterminated => exact absurd rfl engine
  | tooLarge => rfl
  | _ => simp only [message, report, last, Text.summary_append _ single filled]

end PatternFault

namespace CommandFault

/-- The letters of the command line that a faulty command is reported with. -/
def letters : CommandFault → List Char
  | unknownLetter letter | badSuffix letter | missingPattern letter | missingCommand letter
  | unknownOption letter => [letter]
  | notPerLine inner outer => [inner, outer]

theorem singleLine_toString {letter : Char} (other : letter ≠ '\n')
    : SingleLine (toString letter) := by
  simpa [SingleLine, toString] using other.symm

theorem singleLine_message {fault : CommandFault} (named : '\n' ∉ fault.letters)
    : SingleLine fault.message := by
  unfold message
  cases fault with
  | unknownLetter letter | badSuffix letter | missingPattern letter | missingCommand letter
  | unknownOption letter =>
      have single := singleLine_toString (List.ne_of_not_mem_cons named).symm
      simp only [singleLine_append, single, true_and, and_true]
      decide
  | notPerLine inner outer =>
      obtain ⟨first, others⟩ := List.ne_and_not_mem_of_not_mem_cons named
      have inside : SingleLine inner.toString := singleLine_toString first.symm
      have outside := singleLine_toString (List.ne_of_not_mem_cons others).symm
      simp only [singleLine_append, inside, outside, and_true]
      decide

end CommandFault

theorem FileFault.singleLine_message (fault : FileFault) : SingleLine fault.message := by
  cases fault <;> exact singleLine_ofList.mpr (by decide)

/-- What an error names of a command line, its letters or a path, holds no line feed. -/
def EditError.SingleLines : EditError → Prop
  | .unrecognized fault => '\n' ∉ fault.letters
  | .file error => SingleLine error.path
  | _ => True

/-- An error that names no line feed is reported on a single line. -/
theorem EditError.SingleLines.message {error : EditError} (single : error.SingleLines)
    : SingleLine error.message := by
  cases error with
  | badPattern fault =>
      exact singleLine_append.mpr ⟨singleLine_ofList.mpr (by decide), fault.singleLine_message⟩
  | unrecognized fault => exact CommandFault.singleLine_message single
  | file error =>
      refine singleLine_append.mpr ⟨singleLine_append.mpr ⟨single, ?_⟩, ?_⟩
      · exact singleLine_ofList.mpr (by decide)
      · exact error.fault.singleLine_message
  | _ => exact singleLine_ofList.mpr (by decide)

----------------------------------------------------------------------------------------
-- Answers
----------------------------------------------------------------------------------------

/-- The remembered texts are single lines. -/
structure Memory.SingleLines (memory : Memory) : Prop where
  replacement : ∀ text ∈ memory.replacement, SingleLine text
  options : ∀ text ∈ memory.options, SingleLine text

/-- The last pattern has no part in it. -/
theorem Memory.SingleLines.withSearch {memory : Memory} (single : memory.SingleLines)
    (search : Option Pattern)
    : ({ memory with search := search } : Memory).SingleLines :=
  ⟨single.replacement, single.options⟩

/-- The lines and the name of the file are single lines. -/
structure Buffer.SingleLines (buffer : Buffer) : Prop where
  lines : ∀ line ∈ buffer.lines, SingleLine line
  filename : ∀ name ∈ buffer.filename, SingleLine name

/-- What is edited and what is remembered are single lines. -/
structure Context.SingleLines (context : Context) : Prop where
  buffer : context.buffer.SingleLines
  memory : context.memory.SingleLines

theorem Context.SingleLines.withMemory {context : Context} {memory : Memory}
    (single : context.SingleLines) (remembered : memory.SingleLines)
    : (context.withMemory memory).SingleLines :=
  ⟨single.buffer, remembered⟩

variable {α β : Type} {holds : α → Prop} {holdsNext : β → Prop}

/-- A step answers with a value that has the property, or with an error of single lines. -/
def Answers (holds : α → Prop) : Except EditError α → Prop
  | .ok value => holds value
  | .error error => error.SingleLines

theorem Answers.mono {step : Except EditError α} {weaker : α → Prop} (answers : Answers holds step)
    (implies : ∀ value, holds value → weaker value)
    : Answers weaker step := by
  cases step with
  | error error => exact answers
  | ok value => exact implies value answers

/-- A step behind another one only has to deal with what that one answers. -/
theorem Answers.bind {step : Except EditError α} {next : α → Except EditError β}
    (answers : Answers holds step) (goesOn : ∀ value, holds value → Answers holdsNext (next value))
    : Answers holdsNext (step >>= next) := by
  cases step with
  | error error => exact answers
  | ok value => exact goesOn value answers

/-- The error of a step is handed on. -/
theorem Answers.of_error {step : Except EditError α} {error : EditError}
    (answers : Answers holds step) (failed : step = .error error)
    : Answers holdsNext (.error error) := by
  rw [failed] at answers
  exact answers

/-- A step answers, and what it leaves remembered are single lines. -/
structure Recalls (holds : α → Prop) (recalled : Recalled α) : Prop where
  answers : Answers holds recalled.1
  memory : recalled.2.SingleLines

/-- The error of a step is handed on with what is remembered then. -/
theorem Recalls.of_error {recalled : Recalled α} {error : EditError} {memory : Memory}
    (recalls : Recalls holds recalled) (failed : recalled = (.error error, memory))
    : Recalls holdsNext (.error error, memory) := by
  rw [failed] at recalls
  exact ⟨recalls.answers, recalls.memory⟩

namespace Context

variable {context : Context} {text : List Char} {letter : Char}

----------------------------------------------------------------------------------------
-- Addresses
----------------------------------------------------------------------------------------

theorem answers_pattern (context : Context) (body : List Char)
    : Answers (fun _ => True) (context.pattern body) := by
  unfold pattern
  split
  · cases context.memory.search with
    | none => trivial
    | some pattern => trivial
  · cases Pattern.compile context.ignoreCase (String.ofList body) with
    | ok pattern => trivial
    | error fault => trivial

theorem recalls_recallPattern (single : context.SingleLines) (body : List Char)
    : Recalls (fun _ => True) (context.recallPattern body) := by
  have answers := context.answers_pattern body
  unfold recallPattern
  cases found : context.pattern body with
  | ok pattern => exact ⟨trivial, single.memory.withSearch _⟩
  | error error => exact ⟨answers.of_error found, single.memory⟩

theorem answers_readNumber (text : List Char)
    : Answers (fun found => found.2 ⊆ text) (readNumber text) := by
  unfold readNumber
  rw [List.span_eq_takeWhile_dropWhile]
  dsimp only
  split
  · exact List.dropWhile_subset _
  · split
    · exact List.dropWhile_subset _
    · trivial

theorem answers_offsetIndex (dot : Nat) (distance : Int)
    : Answers (fun _ => True) (offsetIndex dot distance) := by
  unfold offsetIndex
  split
  · trivial
  · trivial

theorem answers_readPlainAddress (buffer : Buffer) (slot : Slot) (text : List Char)
    : Answers (fun found => found.2 ⊆ text) (buffer.readPlainAddress slot text) := by
  unfold Buffer.readPlainAddress
  split
  · exact List.Subset.refl _
  · split
    · exact List.subset_cons_self _ _
    · exact List.subset_cons_self _ _
    · exact List.subset_cons_self _ _
    · split
      · exact List.Subset.refl _
      · exact List.Subset.refl _
    -- The offsets come next, and then the numbers.
    case h_5 | h_6 =>
      refine (answers_readNumber _).bind ?_
      rintro ⟨number, left⟩ part
      refine (answers_offsetIndex _ _).bind ?_
      intro index _
      exact List.subset_cons_of_subset _ part
    · split
      · refine (answers_readNumber _).bind ?_
        rintro ⟨number, left⟩ part
        exact part
      · exact List.Subset.refl _

theorem answers_findLine (buffer : Buffer) (forward : Bool) (pattern : Pattern) (start : Int)
    : Answers (fun _ => True) (buffer.findLine forward pattern start) := by
  unfold Buffer.findLine
  split
  · trivial
  · dsimp only
    split
    · trivial
    · trivial

theorem recalls_readSearch (single : context.SingleLines) (slot : Slot) (delimiter : Char)
    (text : List Char)
    : Recalls (fun found => found.2 ⊆ text) (context.readSearch slot delimiter text) := by
  have recalls := recalls_recallPattern single
    (patternBody delimiter (Field.cut delimiter text).body)
  unfold readSearch
  dsimp only
  split
  · exact ⟨trivial, single.memory⟩
  · split
    · next failed => exact recalls.of_error failed
    · next pattern memory found =>
        rw [found] at recalls
        have line := answers_findLine context.buffer (delimiter == '/') pattern
          (slot.origin context.buffer.dot)
        split
        · exact ⟨(Field.cut_subset delimiter text).2, recalls.memory⟩
        · next missed => exact ⟨line.of_error missed, recalls.memory⟩

/-- An address hands on what lies behind it. -/
theorem recalls_readAddress (single : context.SingleLines) (slot : Slot) (text : List Char)
    : Recalls (fun found => found.2 ⊆ text) (context.readAddress slot text) := by
  unfold readAddress
  split
  · next rest =>
      obtain ⟨answers, memory⟩ := recalls_readSearch single slot '/' rest
      exact ⟨answers.mono fun found part => List.subset_cons_of_subset '/' part, memory⟩
  · next rest =>
      obtain ⟨answers, memory⟩ := recalls_readSearch single slot '?' rest
      exact ⟨answers.mono fun found part => List.subset_cons_of_subset '?' part, memory⟩
  · exact ⟨answers_readPlainAddress context.buffer slot text, single.memory⟩

theorem recalls_readSecond (single : context.SingleLines) (first : Int) (text : List Char)
    : Recalls (fun addresses => addresses.rest ⊆ text) (context.readSecond first text) := by
  have recalls := recalls_readAddress single (.second first) text
  unfold readSecond
  split
  · next failed => exact recalls.of_error failed
  · next found =>
      rw [found] at recalls
      exact ⟨recalls.answers, recalls.memory⟩

/-- The addresses hand on what lies behind them. -/
theorem recalls_readRange (single : context.SingleLines) (text : List Char)
    : Recalls (fun addresses => addresses.rest ⊆ text) (context.readRange text) := by
  have recalls := recalls_readAddress single .first text
  unfold readRange
  split
  · next failed => exact recalls.of_error failed
  · next found =>
      rw [found] at recalls
      dsimp only
      split
      · next rest =>
          obtain ⟨answers, memory⟩ :=
            recalls_readSecond (single.withMemory recalls.memory) _ rest
          refine ⟨answers.mono fun addresses part => ?_, memory⟩
          exact List.Subset.trans (List.subset_cons_of_subset ',' part) recalls.answers
      · exact ⟨recalls.answers, recalls.memory⟩

theorem answers_checkRange (buffer : Buffer) (first last : Int)
    : Answers (fun _ => True) (buffer.checkRange first last) := by
  unfold Buffer.checkRange
  split
  · trivial
  · trivial

theorem answers_commandRange (context : Context) (addresses : Addresses)
    : Answers (fun _ => True) (context.commandRange addresses) := by
  unfold commandRange
  split
  · split
    · trivial
    · trivial
  · exact answers_checkRange _ _ _

----------------------------------------------------------------------------------------
-- Arguments
----------------------------------------------------------------------------------------

/-- An option that is not known is no line feed, because a blank means nothing. -/
theorem answers_add (options : SubstituteOptions) (letter : Char)
    : Answers (fun _ => True) (options.add letter) := by
  unfold SubstituteOptions.add
  split
  · trivial
  · split
    · trivial
    · split
      · trivial
      · split
        · trivial
        · next visible =>
            rintro (_ | ⟨_, ⟨⟩⟩)
            exact visible (by decide)

theorem answers_readOptions (text : List Char)
    : Answers (fun _ => True) (SubstituteOptions.read text) := by
  unfold SubstituteOptions.read
  generalize ({} : SubstituteOptions) = options
  induction text generalizing options with
  | nil => trivial
  | cons letter text ih =>
      rw [List.foldlM_cons]
      exact (answers_add options letter).bind fun longer _ => ih longer

theorem answers_replacement (single : context.memory.SingleLines) (delimiter : Char)
    {written : List Char} (line : '\n' ∉ written)
    : Answers SingleLine (context.replacement delimiter written) := by
  unfold replacement
  split
  · split
    · next text last => exact single.replacement text last
    · trivial
  · exact singleLine_ofList.mpr fun feed => line (unescape_subset delimiter written feed)

theorem answers_repeatSubstitution (single : context.memory.SingleLines)
    : Answers (fun substitution => SingleLine substitution.replacement)
        context.repeatSubstitution := by
  unfold repeatSubstitution
  split
  · trivial
  · trivial
  · next replacement _ last =>
      exact (answers_readOptions _).bind fun options _ => single.replacement replacement last

/-- The arguments of a substitution are parts of the text that is cut, or the default options. -/
theorem singleLines_cut (delimiter : Char) (line : '\n' ∉ text)
    : '\n' ∉ (SubstituteArguments.cut delimiter text).replacement
      ∧ '\n' ∉ (SubstituteArguments.cut delimiter text).options := by
  have behind : (Field.cut delimiter text).rest ⊆ text := (Field.cut_subset delimiter text).2
  obtain ⟨body, rest⟩ := Field.cut_subset delimiter (Field.cut delimiter text).rest
  unfold SubstituteArguments.cut
  refine ⟨fun feed => line (behind (body feed)), ?_⟩
  dsimp only
  split
  · exact fun feed => line (behind (rest feed))
  · decide

theorem answers_readSubstitution (single : context.memory.SingleLines) (line : '\n' ∉ text)
    : Answers
        (fun found : Substitution × Memory =>
          SingleLine found.1.replacement ∧ found.2.SingleLines)
        (context.readSubstitution text) := by
  unfold readSubstitution
  split
  · exact (answers_repeatSubstitution single).bind fun substitution replacement =>
      ⟨replacement, single⟩
  · next delimiter text =>
      obtain ⟨written, options⟩ := singleLines_cut delimiter (List.not_mem_of_not_mem_cons line)
      refine (context.answers_pattern _).bind fun pattern _ => ?_
      refine (answers_replacement single delimiter written).bind fun replacement kept => ?_
      refine (answers_readOptions _).bind fun read _ => ?_
      refine ⟨kept, ?_, ?_⟩
      · rintro text ⟨rfl⟩
        exact kept
      · rintro text ⟨rfl⟩
        exact singleLine_ofList.mpr options

theorem answers_fileArgument (single : context.SingleLines) (other : letter ≠ '\n')
    (line : '\n' ∉ text)
    : Answers SingleLine (context.buffer.fileArgument letter text) := by
  unfold Buffer.fileArgument
  split
  · exact mt List.mem_singleton.mp other.symm
  · split
    · split
      · next name file => exact single.buffer.filename name file
      · trivial
    · exact singleLine_ofList.mpr fun feed => line (trim_subset text feed)

end Context

----------------------------------------------------------------------------------------
-- Operations
----------------------------------------------------------------------------------------

/-- What the command puts in is a single line. -/
def LineCommand.SingleLines : LineCommand → Prop
  | .substitute substitution => SingleLine substitution.replacement
  | _ => True

/-- What the operation puts in and the path that it names are single lines. -/
def Operation.SingleLines : Operation → Prop
  | .each command => command.SingleLines
  | .global inner => inner.command.SingleLines
  | .read path | .write path => SingleLine path
  | _ => True

/-- A global command is of a single line if its inner command is; an inner command that is refused
is named by a letter of the line.
-/
theorem GlobalCommand.recalls_enclose {letter : Char} {text : List Char} {pattern : Pattern}
    {previous : Option Pattern} {inner : Recalled (Operation × List Char)}
    (other : letter ≠ '\n') (line : '\n' ∉ text)
    (recalls : Recalls (fun found => found.1.SingleLines) inner)
    : Recalls (fun found => found.1.SingleLines)
        (enclose letter pattern text previous inner) := by
  obtain ⟨answers, memory⟩ := recalls
  unfold enclose
  split
  · exact ⟨answers, memory⟩
  · refine ⟨?_, memory.withSearch _⟩
    have first : '\n' ≠ text.headD letter := by
      cases text with
      | nil => exact other.symm
      | cons first text => exact List.ne_of_not_mem_cons line
    exact List.not_mem_cons_of_ne_of_not_mem first (mt List.mem_singleton.mp other.symm)
  · exact ⟨answers, memory.withSearch _⟩

namespace Context

variable {context : Context} {text : List Char} {letter : Char}

theorem recalls_readMove (single : context.SingleLines) (text : List Char)
    : Recalls (fun found => found.1.SingleLines) (context.readMove text) := by
  have recalls := recalls_readAddress single .first text
  unfold readMove
  split
  · next failed => exact recalls.of_error failed
  · next found =>
      rw [found] at recalls
      exact ⟨trivial, recalls.memory⟩
  · next found =>
      rw [found] at recalls
      exact ⟨trivial, recalls.memory⟩

theorem recalls_readSimple (single : context.SingleLines) (other : letter ≠ '\n')
    (line : '\n' ∉ text)
    : Recalls (fun found => found.1.SingleLines) (context.readSimple letter text) := by
  have file := answers_fileArgument single other line
  unfold readSimple
  dsimp only
  split
  -- The letters that may be refused are `q`, `r` and `w`; then come `s`, `m` and unknown ones.
  case h_8 =>
    split
    · exact ⟨trivial, single.memory⟩
    · exact ⟨trivial, single.memory⟩
  case h_9 =>
    split
    · next failed => exact ⟨file.of_error failed, single.memory⟩
    · next found =>
        rw [found] at file
        split
        · exact ⟨trivial, single.memory⟩
        · exact ⟨file, single.memory⟩
  case h_10 =>
    split
    · next failed => exact ⟨file.of_error failed, single.memory⟩
    · next found =>
        rw [found] at file
        exact ⟨file, single.memory⟩
  case h_11 =>
    have substitution := answers_readSubstitution single.memory line
    split
    · next failed => exact ⟨substitution.of_error failed, single.memory⟩
    · next found =>
        rw [found] at substitution
        exact ⟨substitution.1, substitution.2⟩
  case h_12 => exact recalls_readMove single text
  case h_13 =>
    exact ⟨mt List.mem_singleton.mp other.symm, single.memory⟩
  all_goals exact ⟨trivial, single.memory⟩

theorem answers_readSelector (context : Context) (other : letter ≠ '\n') (text : List Char)
    : Answers (fun found => found.2 ⊆ text) (context.readSelector letter text) := by
  have named : '\n' ∉ [letter] := mt List.mem_singleton.mp other.symm
  unfold readSelector
  split
  · exact named
  · next delimiter text =>
      dsimp only
      split
      · trivial
      · refine (context.answers_pattern _).bind fun pattern _ => ?_
        split
        · exact named
        · exact List.subset_cons_of_subset delimiter (Field.cut_subset delimiter text).2

/-- An operation is read from a single line into single lines, by induction on the global commands
that it starts with.
-/
theorem recalls_readOperation (single : context.SingleLines) (line : '\n' ∉ text)
    : Recalls (fun found => found.1.SingleLines) (context.readOperation text) := by
  induction context, text using readOperation.induct with
  | case1 context =>
      rw [readOperation]
      exact ⟨trivial, single.memory⟩
  | case2 context letter text global error unread =>
      have selector := context.answers_readSelector (List.ne_of_not_mem_cons line).symm text
      rw [readOperation_of_unselected global unread]
      exact ⟨selector.of_error unread, single.memory⟩
  | case3 context letter text global pattern inner read shorter ih =>
      have other : letter ≠ '\n' := (List.ne_of_not_mem_cons line).symm
      have selector := context.answers_readSelector other text
      rw [read] at selector
      have inside : '\n' ∉ inner := fun feed => List.not_mem_of_not_mem_cons line (selector feed)
      have kept : (context.memory.keepSearch pattern).SingleLines := single.memory.withSearch _
      rw [readOperation_of_selected global read]
      exact GlobalCommand.recalls_enclose other inside (ih (single.withMemory kept) inside)
  | case4 context letter text simple =>
      rw [readOperation_of_simple simple]
      exact recalls_readSimple single (List.ne_of_not_mem_cons line).symm
        (List.not_mem_of_not_mem_cons line)

/-- A single line is read into a command of single lines, or into an error that is reported on
one; and the remembered texts stay single lines.
-/
theorem recalls_readCommand (single : context.SingleLines) {line : String}
    (typed : SingleLine line)
    : Recalls (fun command => command.operation.SingleLines) (context.readCommand line) := by
  have range := recalls_readRange single line.toList
  unfold readCommand
  split
  · next failed => exact range.of_error failed
  · next addresses memory found =>
      rw [found] at range
      have lines := context.answers_commandRange addresses
      split
      · next failed => exact ⟨lines.of_error failed, range.memory⟩
      · have operation := recalls_readOperation (single.withMemory range.memory)
          fun feed => typed (range.answers feed)
        split
        · next failed => exact operation.of_error failed
        · next found =>
            rw [found] at operation
            exact ⟨operation.answers, operation.memory⟩

end Context

end LineEditor
