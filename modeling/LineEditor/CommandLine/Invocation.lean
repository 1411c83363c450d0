import LineEditor.CommandLine.Flag
import LineEditor.Text.Similarity

/-! What the program is asked to do by the words of its command line. -/

namespace LineEditor.CommandLine

open Text (isAlike)

----------------------------------------------------------------------------------------
-- Invocations
----------------------------------------------------------------------------------------

/-- A request to edit: the file to start with, the prompt, and two options. -/
structure EditRequest where
  file : Option String := none
  prompt : Option String := none
  ignoreCase : Bool := false
  debug : Bool := false
  deriving DecidableEq, Repr

/-- What is shown of the settings: where they are and what they are, or one of the two. -/
inductive SettingsView where
  | placeAndContent
  | content
  | place
  deriving DecidableEq, Repr

/-- What the program is asked to do. -/
inductive Invocation where
  | edit (request : EditRequest)
  | settings (view : SettingsView)
  | help
  /-- Tells the version under the name of a command, in a long form or a short one. -/
  | version (command : String) (long : Bool)
  | misuse (fault : UsageFault)
  deriving DecidableEq, Repr

/-- The name of the program. -/
def programName : String := "edx"

/-- The command that shows the settings. -/
def settingsCommand : String := "config"

/-- The command that explains the program. -/
def helpCommand : String := "help"

----------------------------------------------------------------------------------------
-- Options
----------------------------------------------------------------------------------------

/-- What has been taken but not checked yet: the option whose value may still be to come, or
the file.
-/
inductive Pending where
  | prompt (value : Option String)
  | file (name : String)
  deriving DecidableEq, Repr

/-- What has been taken from the command line so far; options are in the order given. -/
structure Intake where
  given : List Flag := []
  prompt : Option String := none
  file : Option String := none
  pending : Option Pending := none
  deriving DecidableEq, Repr

/-- A step of taking in the command line. It may settle early what the program is to do. -/
abbrev Step := Except Invocation Intake

/-- Stops at a misuse. -/
def refuse {α : Type} (fault : UsageFault) : Except Invocation α := .error (.misuse fault)

namespace Intake

/-- Adds an option, which may be given only once. -/
def give (intake : Intake) (flag : Flag) : Step :=
  if intake.given.contains flag then refuse (.repeatedFlag flag)
  else .ok { intake with given := intake.given ++ [flag] }

/-- Adds the prompt. -/
def givePrompt (intake : Intake) (value : String) : Step := do
  return { ← intake.give .prompt with prompt := some value }

/-- Checks what is pending: a prompt needs its value, and a file a name that is not empty. -/
def settle (intake : Intake) : Step :=
  let settled := { intake with pending := none }
  match intake.pending with
  | none => .ok settled
  | some (.prompt none) => refuse (.missingValue Flag.prompt.label)
  | some (.prompt (some value)) => settled.givePrompt value
  | some (.file name) =>
      if name.isEmpty then refuse (.missingValue "[FILE]")
      else .ok { settled with file := some name }

/-- The next word may be the value of an option. -/
def awaits (intake : Intake) : Bool := intake.pending = some (.prompt none)

/-- Takes an option without a value of its own word. -/
def take (intake : Intake) (command : String) (long : Bool) (flag : Flag) : Step := do
  let intake ← intake.settle
  match flag with
  | .help => .error .help
  | .version => .error (.version command long)
  | .prompt => return { intake with pending := some (.prompt none) }
  | _ => intake.give flag

/-- Takes an option with a value in the same word. -/
def takeValue (intake : Intake) (value : String) : Step := do
  (← intake.settle).givePrompt value

/-- Takes an option by its long name. -/
def takeLong (intake : Intake) (command : String) (flags : List Flag) (name : String)
    (value : Option String) : Step :=
  match flags.find? (·.long = name), value with
  | none, _ => refuse (.unexpectedArgument ("--" ++ name))
  | some flag, none => intake.take command true flag
  | some flag, some value =>
      if flag.takesValue then intake.takeValue value else refuse (.unexpectedValue value flag)

/-- Takes options by their letters. The value of an option follows its letter, with an equals
sign or without.
-/
def takeLetters (command : String) (flags : List Flag) : List Char → Intake → Step
  | [], intake => .ok intake
  | letter :: letters, intake =>
      match flags.find? (·.letter? = some letter) with
      | none => refuse (.unexpectedArgument ("-" ++ letter.toString))
      | some flag =>
          if flag.takesValue && !letters.isEmpty then
            intake.takeValue (String.ofList
              (if letters.head? = some '=' then letters.tail else letters))
          else do takeLetters command flags letters (← intake.take command false flag)

end Intake

----------------------------------------------------------------------------------------
-- Words
----------------------------------------------------------------------------------------

/-- What a word of the command line looks like. -/
inductive Word where
  /-- Two hyphens: no options follow. -/
  | separator
  | long (name : String) (value : Option String)
  | letters (letters : List Char)
  | plain
  deriving DecidableEq, Repr

/-- Tells what a word looks like; a lone hyphen is a plain one. -/
def Word.ofArgument (argument : String) : Word :=
  match argument.toList with
  | ['-', '-'] => .separator
  | '-' :: '-' :: text =>
      let (name, rest) := text.span (· != '=')
      .long (String.ofList name)
        (if rest.isEmpty then none else some (String.ofList rest.tail))
  | '-' :: letter :: rest => .letters (letter :: rest)
  | _ => .plain

----------------------------------------------------------------------------------------
-- The settings command
----------------------------------------------------------------------------------------

/-- The options of the settings command. -/
def settingsFlags : List Flag := [.showSettings, .settingsPath, .help, .version]

/-- Takes in the words of the settings command, which has only options. -/
def readSettingsFlags : List String → Intake → Step
  | [], intake => .ok intake
  | argument :: arguments, intake =>
      let command := programName ++ "-" ++ settingsCommand
      match Word.ofArgument argument with
      | .separator =>
          match arguments with
          | [] => .ok intake
          | operand :: _ => refuse (.unexpectedArgument operand)
      | .long name value => do
          readSettingsFlags arguments (← intake.takeLong command settingsFlags name value)
      | .letters letters => do
          readSettingsFlags arguments (← Intake.takeLetters command settingsFlags letters intake)
      | .plain => refuse (.unexpectedArgument argument)

/-- What the options of the settings command ask to be shown. -/
def SettingsView.ofFlags (flags : List Flag) : Except Invocation SettingsView :=
  match flags with
  | [] => .ok .placeAndContent
  | [.settingsPath] => .ok .place
  | [_] => .ok .content
  | first :: second :: _ => refuse (.conflict first second)

/-- Takes in the settings command. -/
def readSettings (arguments : List String) : Except Invocation SettingsView := do
  SettingsView.ofFlags (← readSettingsFlags arguments {}).given

----------------------------------------------------------------------------------------
-- The whole command line
----------------------------------------------------------------------------------------

/-- The name is that of a command. -/
def isCommand (name : String) : Bool := name = settingsCommand || name = helpCommand

/-- What the help command with the names of commands asks for. No command has commands of its
own, so that only one can be named.
-/
def readHelp : List String → Invocation
  | [] => .help
  | name :: names =>
      match isCommand name, names with
      | false, _ => .misuse (.unknownCommand name)
      | true, [] => .help
      | true, other :: _ => .misuse (.unknownCommand other)

/-- The options of editing. -/
def editFlags : List Flag := [.prompt, .ignoreCase, .debug, .help, .version]

/-- Takes an operand: the file, of which there is only one. A second one that is much like a
command is taken for a misspelt command, but not a command behind two hyphens.
-/
def Intake.takeOperand (separated : Bool) (intake : Intake) (operand : String) : Step :=
  let hasFile := intake.file.isSome ||
    match intake.pending with
    | some (.file _) => true
    | _ => false
  if hasFile then
    if separated && isCommand operand then refuse (.unexpectedArgument operand)
    else if isAlike operand settingsCommand || isAlike operand helpCommand then
      refuse (.unknownCommand operand)
    else refuse (.unexpectedArgument operand)
  else do return { ← intake.settle with pending := some (.file operand) }

/-- Takes in the words of the command line. A command may stand behind options and the file,
which are checked but mean nothing to it.
-/
def readWords : List String → Intake → Step
  | [], intake => intake.settle
  | argument :: arguments, intake =>
      if intake.awaits = false ∧ argument = settingsCommand then do
        let view ← readSettings arguments
        let _ ← intake.settle
        .error (.settings view)
      else if intake.awaits = false ∧ argument = helpCommand then .error (readHelp arguments)
      else
        match Word.ofArgument argument with
        | .separator => do (← arguments.foldlM (Intake.takeOperand true) intake).settle
        | .long name value => do
            readWords arguments (← intake.takeLong programName editFlags name value)
        | .letters letters => do
            readWords arguments (← Intake.takeLetters programName editFlags letters intake)
        | .plain =>
            if intake.awaits then
              readWords arguments { intake with pending := some (.prompt (some argument)) }
            else do readWords arguments (← intake.takeOperand false argument)

/-- What a command line asks for. -/
def Invocation.ofArguments (arguments : List String) : Invocation :=
  match readWords arguments {} with
  | .error invocation => invocation
  | .ok intake =>
      .edit {
        file := intake.file
        prompt := intake.prompt
        ignoreCase := intake.given.contains .ignoreCase
        debug := intake.given.contains .debug }

end LineEditor.CommandLine
