import LineEditor.Text.Quoted
import LineEditor.Toml.Document

/-! The settings of the editor: reading and writing them as a document, and what they may be. -/

namespace LineEditor

open Text (quoted)
open Toml (Entries Value)

/-- What can be set. `ignoreCase` applies to every pattern, `debug` asks for a log. -/
structure Settings where
  prompt : String := "*"
  showPrompt : Bool := false
  ignoreCase : Bool := false
  debug : Bool := false
  deriving DecidableEq, Repr

namespace Settings

/-- The members of one group of settings; a group that is absent has none. -/
def group (entries : Entries) (name : String) : Option (Nat → String → Option Value) :=
  match entries.lookup name with
  | none => some fun _ _ => none
  | some value => if value.isRecord then some fun place name => value.member place name else none

/-- A setting: the default where nothing is said, or what the value means. -/
def setting {α : Type} (default : α) (read : Value → Option α) : Option Value → Option α
  | none => some default
  | some value => read value

/-- The settings that the table of a document makes. Entries that name no setting mean
nothing; a value of the wrong kind spoils all.
-/
def ofEntries (entries : Entries) : Option Settings := do
  let session ← group entries "session"
  let prompt ← setting "*" Value.asText (session 0 "prompt")
  let showPrompt ← setting false Value.asBoolean (session 1 "show_prompt")
  let patterns ← group entries "regex"
  let ignoreCase ← setting false Value.asBoolean (patterns 0 "case_insensitive")
  let logging ← group entries "logging"
  let debug ← setting false Value.asBoolean (logging 0 "debug")
  return ⟨prompt, showPrompt, ignoreCase, debug⟩

/-- Reads settings. -/
def read (text : String) : Option Settings := do
  ofEntries (← Toml.readDocument text)

/-- The word for a boolean. -/
def word (value : Bool) : String := if value then "true" else "false"

/-- Writes all settings as a document. -/
def render (settings : Settings) : String :=
  "[session]\nprompt = " ++ String.ofList (Toml.writeText settings.prompt.toList)
    ++ "\nshow_prompt = " ++ word settings.showPrompt
    ++ "\n\n[regex]\ncase_insensitive = " ++ word settings.ignoreCase
    ++ "\n\n[logging]\ndebug = " ++ word settings.debug ++ "\n"

/-- The lines of the document that settings start from: the defaults, with explanations. -/
def templateLines : List String :=
  ["# edx Configuration File",
   "#",
   "# Values set here can be overridden by command-line flags.",
   "#",
   "# For more information, run: edx config --help",
   "",
   "[session]",
   "# Prompt text (default: \"*\", at most 32 characters)",
   "prompt = \"*\"",
   "",
   "# Print the prompt before each command (default: false)",
   "# Same as passing -p on the command line.",
   "show_prompt = false",
   "",
   "[regex]",
   "# Compile every search and substitution pattern case-insensitively",
   "# (default: false). Same as -i on the command line.",
   "case_insensitive = false",
   "",
   "[logging]",
   "# Write a debug log to ~/.edx/edx.log (default: false)",
   "# The EDX_LOG environment variable sets a custom filter, e.g. EDX_LOG=edx=trace",
   "debug = false"]

/-- The document that settings start from. -/
def template : String := String.join (templateLines.map (· ++ "\n"))

/-- The prompt before each command, if one is to be shown. -/
def shownPrompt (settings : Settings) : Option String :=
  if settings.showPrompt then some settings.prompt else none

/-- The most characters of a prompt. -/
def promptLimit : Nat := 32

/-- Why settings cannot be used. -/
inductive Fault where
  | promptTooLong (prompt : String)
  | promptBroken (prompt : String)
  deriving DecidableEq, Repr

/-- The wording of a fault. -/
def Fault.message : Fault → String
  | promptTooLong prompt =>
      "Invalid prompt: " ++ quoted prompt ++ s!" (at most {promptLimit} characters)"
  | promptBroken prompt =>
      "Invalid prompt: " ++ quoted prompt ++ " (must not contain a newline)"

/-- What is wrong with settings: a prompt has to be short and on one line. -/
def fault? (settings : Settings) : Option Fault :=
  let prompt := settings.prompt
  if prompt.length > promptLimit then some (.promptTooLong prompt)
  else if prompt.toList.any fun c => c = '\n' || c = '\r' then some (.promptBroken prompt)
  else none

end Settings

end LineEditor
