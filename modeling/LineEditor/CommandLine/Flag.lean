import LineEditor.Text.Terminal

/-! The options of the command line, and the faults in its use. -/

namespace LineEditor.CommandLine

open Text (plain)

/-- The options of the program and of its settings command. -/
inductive Flag where
  | prompt
  | ignoreCase
  | debug
  | showSettings
  | settingsPath
  | help
  | version
  deriving DecidableEq, Repr

namespace Flag

/-- The long name, after two hyphens. -/
def long : Flag → String
  | prompt => "prompt"
  | ignoreCase => "ignore-case"
  | debug => "debug"
  | showSettings => "show"
  | settingsPath => "path"
  | help => "help"
  | version => "version"

/-- The letter, after one hyphen. -/
def letter? : Flag → Option Char
  | prompt => some 'p'
  | ignoreCase => some 'i'
  | help => some 'h'
  | version => some 'V'
  | _ => none

/-- The option takes a value. -/
def takesValue (flag : Flag) : Bool := flag = prompt

/-- The option as messages show it. -/
def label (flag : Flag) : String :=
  "--" ++ flag.long ++ if flag.takesValue then " <STRING>" else ""

end Flag

/-- How the command line is misused. -/
inductive UsageFault where
  | unexpectedArgument (argument : String)
  | unexpectedValue (value : String) (flag : Flag)
  | missingValue (label : String)
  | repeatedFlag (flag : Flag)
  | conflict (first second : Flag)
  | unknownCommand (name : String)
  deriving DecidableEq, Repr

/-- The wording of a misuse, in which words of the command line cannot steer the terminal. -/
def UsageFault.message : UsageFault → String
  | unexpectedArgument argument => "unexpected argument '" ++ plain argument ++ "' found"
  | unexpectedValue value flag =>
      "unexpected value '" ++ plain value ++ "' for '" ++ flag.label
        ++ "' found; no more were expected"
  | missingValue label =>
      "a value is required for '" ++ label ++ "' but none was supplied"
  | repeatedFlag flag =>
      "the argument '" ++ flag.label ++ "' cannot be used multiple times"
  | conflict first second =>
      "the argument '" ++ first.label ++ "' cannot be used with '" ++ second.label ++ "'"
  | unknownCommand name => "unrecognized subcommand '" ++ plain name ++ "'"

end LineEditor.CommandLine
