import LineEditor.CommandLine.Invocation
import LineEditor.CommandLine.LogFilter
import LineEditor.Session
import LineEditor.Settings.Home

/-! The program: what it does before editing, and a whole run of it. -/

namespace LineEditor.CommandLine

/-- The version of the program. -/
def versionNumber : String := "0.1.0"

/-- The version as it is told. -/
def versionText (command : String) (long : Bool) : String :=
  command ++ " " ++ versionNumber ++ "\n"
    ++ if long then "\nLicense: MIT\nRust Edition: 2024\n" else ""

/-- The name of the program's folder in the home directory. -/
def folderName : String := ".edx"

/-- The path of the settings file below a home directory. -/
def settingsPath (homePath : String) : String := homePath ++ "/" ++ folderName ++ "/config.toml"

/-- The path of the log below a home directory. -/
def logPath (homePath : String) : String := homePath ++ "/" ++ folderName ++ "/edx.log"

/-- Why the program gives up before editing. -/
inductive StartFault where
  | unreadableSettings (path : String)
  | badSettings (fault : Settings.Fault)
  | badSettingsAt (path : String) (fault : Settings.Fault)
  deriving DecidableEq, Repr

namespace StartFault

/-- What went wrong. -/
def summary : StartFault → String
  | unreadableSettings path => "Failed to read config file: " ++ path
  | badSettings _ => "Invalid configuration"
  | badSettingsAt path _ => "Invalid configuration in " ++ path

/-- What it went wrong for. -/
def cause : StartFault → String
  | unreadableSettings _ => FileFault.notText.message
  | badSettings fault | badSettingsAt _ fault => fault.message

/-- The wording of a fault, with its cause on a line below. -/
def message (fault : StartFault) : String :=
  "Error: " ++ fault.summary ++ "\n\nCaused by:\n    " ++ fault.cause ++ "\n"

end StartFault

/-- What the program is given: the words of its command line, the filter for its log, which is
empty if there is none, and the path of the home directory.
-/
structure Environment where
  arguments : List String
  logFilter : String := ""
  homePath : String
  deriving DecidableEq, Repr

/-- How editing starts: with or without regard to case, with a prompt and a file if there are
any, and after some warnings.
-/
structure Setup where
  ignoreCase : Bool
  prompt : Option String
  file : Option String
  warnings : String
  deriving DecidableEq, Repr

/-- What has been decided before editing: to edit, or to end with a status and two texts. The program
can also crash, after some warnings.
-/
inductive Decision where
  | edit (setup : Setup)
  | finish (status : Nat) (output diagnostics : String)
  | crash (warnings : String)
  deriving DecidableEq, Repr

/-- Gives up. -/
def Decision.fail (fault : StartFault) : Decision := .finish 1 "" fault.message

/-- What comes of opening a log: the warnings on it, whether the program crashes after them, and its
folder then.
-/
structure LogStart where
  warnings : String := ""
  crashes : Bool := false
  folder : Folder
  deriving DecidableEq

/-- Opens the log, and warns of directives of its filter that mean nothing. Where the log cannot be
opened only that is told, and editing goes on without a log.
-/
def openLog (environment : Environment) (folder : Folder) : LogStart :=
  match folder.logFault with
  | some fault => {
      warnings := "Warning: Could not create log file: Failed to open log file: "
        ++ logPath environment.homePath ++ ": " ++ fault.message ++ "\n"
      folder := folder }
  | none => {
      warnings := LogFilter.warnings environment.logFilter
      crashes := LogFilter.crashes environment.logFilter
      folder := { folder with hasLog := true } }

/-- Opens the log if any of three places asks for one: the command line, the settings and the
filter.
-/
def EditRequest.startLog (request : EditRequest) (environment : Environment) (settings : Settings)
    (folder : Folder) : LogStart :=
  if request.debug || settings.debug || !environment.logFilter.isEmpty then
    openLog environment folder
  else { folder := folder }

/-- Starts to edit with loaded settings. What the command line says comes before the settings. -/
def EditRequest.prepare (request : EditRequest) (environment : Environment) (settings : Settings)
    (folder : Folder) : Decision × Folder :=
  match settings.fault? with
  | some fault => (.fail (.badSettings fault), folder)
  | none =>
      let log := request.startLog environment settings folder
      if log.crashes then (.crash log.warnings, log.folder)
      else
        (.edit {
          ignoreCase := request.ignoreCase || settings.ignoreCase
          prompt := request.prompt.or settings.shownPrompt
          file := request.file
          warnings := log.warnings }, log.folder)

/-- Shows loaded settings that stand at a path. -/
def showSettings (path : String) (withPath : Bool) (settings : Settings) : Decision :=
  match settings.fault? with
  | some fault => .fail (.badSettingsAt path fault)
  | none =>
      .finish 0
        ((if withPath then "Configuration file: " ++ path ++ "\n\n" else "") ++ settings.render)
        ""

/-- Decides on an invocation, with what becomes of the program's folder. The path of the
settings is shown without looking at them. The text of the help is left out.
-/
def Invocation.prepare (invocation : Invocation) (environment : Environment)
    (folder : Folder) : Decision × Folder :=
  let path := settingsPath environment.homePath
  let loaded (next : Settings → Folder → Decision × Folder) : Decision × Folder :=
    match folder.load with
    | none => (.fail (.unreadableSettings path), folder)
    | some (found, folder) => next found folder
  match invocation with
  | .edit request => loaded (request.prepare environment)
  | .settings .place => (.finish 0 (path ++ "\n") "", folder)
  | .settings view => loaded fun found folder =>
      (showSettings path (view = .placeAndContent) found, folder)
  | .help => (.finish 0 "" "", folder)
  | .version command long => (.finish 0 (versionText command long) "", folder)
  | .misuse fault => (.finish 2 "" ("error: " ++ fault.message ++ "\n"), folder)

/-- The invocation needs the program's folder, which is then made if it is missing. -/
def Invocation.needsFolder : Invocation → Bool
  | .edit _ | .settings _ => true
  | _ => false

/-- Decides what to do, and what becomes of the home directory. -/
def prepare (environment : Environment) (home : Home) : Decision × Home :=
  let invocation := Invocation.ofArguments environment.arguments
  let (decision, folder) := invocation.prepare environment home.contents
  (decision, if invocation.needsFolder then .withFolder folder else home)

/-- What a run of the program leaves: its exit status, what it wrote to its two channels, the
files of the working directory and the home directory. The home directory is apart from these
files, so that no command of a session reads or writes the settings or the log.
-/
structure Report where
  status : Nat
  output : String
  diagnostics : String
  files : FileTree
  home : Home
  deriving DecidableEq

/-- The session that editing starts with. -/
def Setup.session (setup : Setup) (world : World) : Session :=
  let session : Session :=
    { context := { ignoreCase := setup.ignoreCase }
      world := world
      diagnostics := setup.warnings
      prompt := setup.prompt }
  match setup.file with
  | none => session
  | some file => session.open file

/-- Runs the program. Editing ends well, whatever its commands do. What the system adds to the
diagnostics of a crash is left out.
-/
def run (environment : Environment) (world : World) (home : Home) : Report :=
  match prepare environment home with
  | (.finish status output diagnostics, home) =>
      { status, output, diagnostics, files := world.files, home }
  | (.crash warnings, home) =>
      { status := 101, output := "", diagnostics := warnings, files := world.files, home }
  | (.edit setup, home) =>
      let session := (setup.session world).run
      { status := 0
        output := session.output
        diagnostics := session.diagnostics
        files := session.world.files
        home := home }

end LineEditor.CommandLine
