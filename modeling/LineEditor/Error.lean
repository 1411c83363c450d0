import LineEditor.Files.Fault
import LineEditor.Pattern.Fault

/-! The causes for which a command fails, and the wording of each. -/

namespace LineEditor

/-- Why a command letter or what follows it makes no command. -/
inductive CommandFault where
  | unknownLetter (letter : Char)
  /-- Something other than a blank follows the letter of a command with a file name. -/
  | badSuffix (letter : Char)
  | missingPattern (letter : Char)
  | missingCommand (letter : Char)
  /-- The inner command cannot be run on each line. -/
  | notPerLine (inner outer : Char)
  | unknownOption (letter : Char)
  deriving DecidableEq, Repr

/-- The wording of a faulty command. -/
def CommandFault.message : CommandFault → String
  | unknownLetter letter => s!"{letter}: unrecognised command"
  | badSuffix letter => s!"{letter}: invalid command suffix"
  | missingPattern letter => s!"no pattern supplied for {letter}//"
  | missingCommand letter => s!"no command supplied for {letter}//"
  | notPerLine inner outer => "can't use '" ++ inner.toString ++ s!"' with {outer}//"
  | unknownOption letter => s!"{letter}: unknown substitute option"

/-- Why a command fails. -/
inductive EditError where
  /-- An address or a range is malformed or outside the buffer. -/
  | badRange
  /-- A search or substitution found nothing. -/
  | noMatch
  | badPattern (fault : PatternFault)
  | noPriorPattern
  | noPriorReplacement
  | unrecognized (fault : CommandFault)
  /-- Leaving or reading would lose unsaved changes. -/
  | unsavedChanges
  | missingFilename
  | badMoveTarget
  | file (error : FileError)
  deriving DecidableEq, Repr

namespace EditError

/-- The wording of an error. -/
def message : EditError → String
  | badRange => "bad range"
  | noMatch => "no match"
  | badPattern fault => "bad regex: " ++ fault.message
  | noPriorPattern => "no previous regex"
  | noPriorReplacement => "no previous replacement"
  | unrecognized fault => fault.message
  | unsavedChanges => "dirty buffer"
  | missingFilename => "no filename"
  | badMoveTarget => "bad move target"
  | file error => error.message

/-- What begins a diagnostic line. -/
def marker : String := "?  "

/-- The error as a line on the diagnostic channel. -/
def diagnostic (error : EditError) : String :=
  marker ++ error.message ++ "\n"

end EditError

end LineEditor
