import LineEditor.Command.Substitution

/-! Operations: the command letters, their arguments, and the commands run on selected lines. -/

namespace LineEditor

open Text (Field isBlank trim)

----------------------------------------------------------------------------------------
-- Operations
----------------------------------------------------------------------------------------

/-- Commands that act on each line by itself. -/
inductive LineCommand where
  | print
  | number
  | delete
  | substitute (substitution : Substitution)
  deriving DecidableEq, Repr

/-- A command for the lines that match a pattern, or for those that do not. -/
structure GlobalCommand where
  pattern : Pattern
  matching : Bool
  command : LineCommand
  deriving DecidableEq, Repr

/-- The command acts on the line. -/
def GlobalCommand.selects (global : GlobalCommand) (line : String) : Bool :=
  global.pattern.isMatch line == global.matching

/-- Where typed text goes: before the range, after it, or in its place. -/
inductive InputMode where
  | insert
  | append
  | change
  deriving DecidableEq, Repr

/-- What a command does to its range. A move goes behind its destination, and −1 stands for
the place before the first line.
-/
inductive Operation where
  | each (command : LineCommand)
  | global (command : GlobalCommand)
  | input (mode : InputMode)
  | move (destination : Int)
  | read (path : String)
  | write (path : String)
  | quit
  deriving DecidableEq, Repr

----------------------------------------------------------------------------------------
-- Arguments
----------------------------------------------------------------------------------------

/-- The file that a command names after a blank, or the buffer's own file. -/
def Buffer.fileArgument (buffer : Buffer) (letter : Char) (text : List Char)
    : Except EditError String :=
  if text.head?.any (!isBlank ·) then .error (.unrecognized (.badSuffix letter))
  else if (trim text).isEmpty then
    match buffer.filename with
    | some name => .ok name
    | none => .error .missingFilename
  else .ok (String.ofList (trim text))

/-- Reads the destination of a move. -/
def Context.readMove (context : Context) (text : List Char)
    : Recalled (Operation × List Char) :=
  match context.readAddress .first text with
  | (.error error, memory) => (.error error, memory)
  | (.ok (none, _), memory) => (.error .badMoveTarget, memory)
  | (.ok (some destination, rest), memory) => (.ok (.move destination, rest), memory)

/-- Reads an operation whose letter starts no nested command. -/
def Context.readSimple (context : Context) (letter : Char) (text : List Char)
    : Recalled (Operation × List Char) :=
  let buffer := context.buffer
  let plain (operation : Operation) : Recalled (Operation × List Char) :=
    (.ok (operation, text), context.memory)
  match letter with
  | 'n' => plain (.each .number)
  | 'p' => plain (.each .print)
  | 'd' => plain (.each .delete)
  | 'a' => plain (.input .append)
  | 'i' => plain (.input .insert)
  | 'c' => plain (.input .change)
  | 'Q' => plain .quit
  | 'q' =>
      if buffer.dirty then (.error .unsavedChanges, context.memory) else plain .quit
  | 'r' =>
      match buffer.fileArgument letter text with
      | .error error => (.error error, context.memory)
      | .ok path =>
          if buffer.dirty then (.error .unsavedChanges, context.memory)
          else (.ok (.read path, []), context.memory)
  | 'w' =>
      match buffer.fileArgument letter text with
      | .error error => (.error error, context.memory)
      | .ok path => (.ok (.write path, []), context.memory)
  | 's' =>
      match context.readSubstitution text with
      | .error error => (.error error, context.memory)
      | .ok (substitution, memory) => (.ok (.each (.substitute substitution), []), memory)
  | 'm' => context.readMove text
  | _ => (.error (.unrecognized (.unknownLetter letter)), context.memory)

----------------------------------------------------------------------------------------
-- Global commands
----------------------------------------------------------------------------------------

/-- Reads the pattern of a global command after its letter, and gives the text of the inner
command, which may not be empty.
-/
def Context.readSelector (context : Context) (letter : Char) (text : List Char)
    : Except EditError (Pattern × List Char) :=
  match text with
  | [] => .error (.unrecognized (.missingPattern letter))
  | delimiter :: text => do
      let field := Field.cut delimiter text
      if !field.closed then .error (.badPattern .unterminated)
      else
        let pattern ← context.pattern (patternBody delimiter field.body)
        if field.rest.isEmpty then .error (.unrecognized (.missingCommand letter))
        else return (pattern, field.rest)

/-- What can be read stands in a field, with the inner command behind it. -/
theorem Context.readSelector_parts {context : Context} {letter : Char}
    {text inner : List Char} {pattern : Pattern}
    (h : context.readSelector letter text = .ok (pattern, inner))
    : ∃ delimiter rest,
        text = delimiter :: rest
        ∧ context.pattern (patternBody delimiter (Field.cut delimiter rest).body) = .ok pattern
        ∧ (Field.cut delimiter rest).rest = inner := by
  match text with
  | [] => simp [readSelector] at h
  | delimiter :: rest =>
      simp only [readSelector] at h
      split at h
      · simp at h
      · cases hp : context.pattern (patternBody delimiter (Field.cut delimiter rest).body) with
        | error error => simp [hp, bind, Except.bind] at h
        | ok found =>
            simp only [hp, bind, Except.bind] at h
            split at h
            · simp at h
            · simp only [pure, Except.pure, Except.ok.injEq, Prod.mk.injEq] at h
              exact ⟨delimiter, rest, rfl, hp.trans (congrArg Except.ok h.1), h.2⟩

/-- The inner command is part of the text after the letter, because its pattern comes first. -/
theorem Context.readSelector_length_lt {context : Context} {letter : Char}
    {text inner : List Char} {pattern : Pattern}
    (h : context.readSelector letter text = .ok (pattern, inner))
    : inner.length < text.length := by
  obtain ⟨delimiter, rest, rfl, _, rfl⟩ := readSelector_parts h
  exact Nat.lt_succ_of_le (Field.cut_rest_length_le delimiter rest)

/-- Makes a global command of an inner command that was read. An inner command that acts on no
single line is refused, and the search pattern goes back to the one before.
-/
def GlobalCommand.enclose (letter : Char) (pattern : Pattern) (text : List Char)
    (previous : Option Pattern) (inner : Recalled (Operation × List Char))
    : Recalled (Operation × List Char) :=
  match inner with
  | (.ok (.each command, rest), memory) =>
      (.ok (.global ⟨pattern, letter == 'g', command⟩, rest), memory)
  | (.ok _, memory) =>
      (.error (.unrecognized (.notPerLine (text.headD letter) letter)),
        { memory with search := previous })
  | (.error error, memory) => (.error error, { memory with search := previous })

/-- Reads one operation from the front of a text and gives the text after it. No text means to
print. The inner command of a global one sees the pattern as the last one.
-/
def Context.readOperation (context : Context) (text : List Char)
    : Recalled (Operation × List Char) :=
  match text with
  | [] => (.ok (.each .print, []), context.memory)
  | letter :: text =>
      if letter = 'g' ∨ letter = 'v' then
        match h : context.readSelector letter text with
        | .error error => (.error error, context.memory)
        | .ok (pattern, inner) =>
            have : inner.length < text.length := Context.readSelector_length_lt h
            GlobalCommand.enclose letter pattern inner context.memory.search
              ((context.withMemory (context.memory.keepSearch pattern)).readOperation inner)
      else context.readSimple letter text
termination_by text.length

namespace Context

variable {context : Context} {letter : Char} {text : List Char}

/-- Every letter other than those of the global commands is read by itself. -/
theorem readOperation_of_simple (simple : ¬ (letter = 'g' ∨ letter = 'v'))
    : context.readOperation (letter :: text) = context.readSimple letter text := by
  rw [readOperation, if_neg simple]

/-- A global command without a pattern or without a command is refused at once. -/
theorem readOperation_of_unselected {error : EditError} (global : letter = 'g' ∨ letter = 'v')
    (unread : context.readSelector letter text = .error error)
    : context.readOperation (letter :: text) = (.error error, context.memory) := by
  rw [readOperation, if_pos global]
  split
  · simp_all
  · simp_all

/-- A global command encloses its inner command, which is read with the pattern as the last. -/
theorem readOperation_of_selected {pattern : Pattern} {inner : List Char}
    (global : letter = 'g' ∨ letter = 'v')
    (read : context.readSelector letter text = .ok (pattern, inner))
    : context.readOperation (letter :: text)
      = GlobalCommand.enclose letter pattern inner context.memory.search
          ((context.withMemory (context.memory.keepSearch pattern)).readOperation inner) := by
  rw [readOperation, if_pos global]
  split
  · simp_all
  · simp_all

end Context

end LineEditor
