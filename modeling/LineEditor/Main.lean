import LineEditor.CommandLine.Program

/-! The program as it runs: real channels and files around what the library decides. -/

namespace LineEditor.CommandLine

open Text (RawLine FileText fileContent rawLines)

/-- The fault that an error of the system stands for. -/
def faultOf (error : IO.Error) : FileFault :=
  match error with
  | .noFileOrDirectory .. | .noSuchThing .. => .notFound
  | .permissionDenied .. => .denied
  | .inappropriateType _ code _ => if code = 20 then .notDirectory else .isDirectory
  | .invalidArgument _ code _ => if code = 36 then .nameTooLong else .invalidName
  | _ => .failed

/-- Reads the lines of a file. -/
def loadFile (path : String) : IO (Except FileError FileText) := do
  if FileTree.hasNul path then return .error ⟨path, .nulInName⟩
  try
    match FileText.ofBytes? (← IO.FS.readBinFile path) with
    | some text => return .ok text
    | none => return .error ⟨path, .notText⟩
  catch error => return .error ⟨path, faultOf error⟩

/-- Fills a draft and renames it, or takes it away. -/
def completeDraft (handle : IO.FS.Handle) (draft target : String) (content : ByteArray)
    : IO Unit := do
  try
    handle.write content
    handle.flush
    IO.FS.rename draft target
  catch error =>
    IO.FS.removeFile draft
    throw error

/-- Writes lines to a file by way of a draft next to it, and counts the bytes. A draft that cannot be
created is reported at its directory.
-/
def saveFile (path : String) (lines : List String) : IO (Except FileError Nat) := do
  if FileTree.hasNul path then return .error ⟨path, .invalidName⟩
  let target ← try pure (← IO.FS.realPath path).toString catch _ => pure path
  let directory := FileTree.parentPath target
  let draft := FileTree.joinPaths directory (".tmp" ++ toString (← IO.rand 100000 999999))
  let content := fileContent lines
  match ← (IO.FS.Handle.mk draft .writeNew).toBaseIO with
  | .error error => return .error ⟨directory, faultOf error⟩
  | .ok handle =>
      match ← (completeDraft handle draft target content).toBaseIO with
      | .error error => return .error ⟨path, faultOf error⟩
      | .ok _ => return .ok content.size

/-- Takes a line of the input; there is none at its end, nor where it cannot be decoded. -/
def takeLine (input : IO.FS.Stream) : IO (Option String) := do
  try
    let line ← input.getLine
    return ((rawLines line.toUTF8.toList).head?).bind RawLine.typed?
  catch _ => return none

/-- Takes lines up to a lone dot or the end, after those already taken, the last one first. -/
partial def takeLines (input : IO.FS.Stream) (taken : List String) : IO (List String) := do
  match ← takeLine input with
  | none => return taken.reverse
  | some line => if line = "." then return taken.reverse else takeLines input (line :: taken)

/-- Carries out a plan with the real input and files. -/
def perform (input : IO.FS.Stream) (plan : Plan) : IO Change := do
  match plan with
  | .done change => return change
  | .takeText next => return next (← takeLines input [])
  | .load path next => return next (← loadFile path)
  | .save path lines next => return next (← saveFile path lines)

/-- Takes command lines and carries them out, until one quits or the input ends. -/
partial def editLines (input : IO.FS.Stream) (prompt : String) (context : Context)
    : IO Unit := do
  IO.print prompt
  (← IO.getStdout).flush
  match ← takeLine input with
  | none => return
  | some line =>
      let (command, memory) := context.readCommand line
      let context := context.withMemory memory
      let change ←
        match command with
        | .ok command => perform input (command.plan context.buffer)
        | .error error => pure (context.buffer.refuse error)
      IO.print change.output
      match change.result with
      | .ok .quit => return
      | .ok .goOn => editLines input prompt { context with buffer := change.buffer }
      | .error error =>
          IO.eprint error.diagnostic
          editLines input prompt { context with buffer := change.buffer }

/-- Edits, after opening the file that was asked for. -/
def editFile (setup : Setup) : IO Unit := do
  IO.eprint setup.warnings
  let mut context : Context := { ignoreCase := setup.ignoreCase }
  if let some path := setup.file then
    let result ← loadFile path
    context := { context with buffer := context.buffer.opened path result }
    if let .error error := result then IO.eprint (EditError.file error).diagnostic
  editLines (← IO.getStdin) (setup.prompt.getD "") context
  (← IO.getStdout).flush

/-- What is known of the log: whether it is there, or why it cannot be opened. -/
def readLog (homePath : String) : IO Folder := do
  try
    let _ ← IO.FS.Handle.mk (logPath homePath) .readWrite
    return { hasLog := true }
  catch error =>
    match faultOf error with
    | .notFound => return {}
    | fault => return { logFault := some fault }

/-- What is in the program's folder. -/
def readHome (homePath : String) : IO Home := do
  let folder ← readLog homePath
  try
    return .withFolder
      { folder with settings := some (← IO.FS.readBinFile (settingsPath homePath)) }
  catch _ => return if folder = {} then {} else .withFolder folder

/-- Brings the program's folder to a new state. -/
def writeHome (homePath : String) (old new : Home) : IO Unit := do
  match new.folder with
  | none => return
  | some folder =>
      IO.FS.createDirAll (homePath ++ "/" ++ folderName)
      if folder.settings ≠ old.contents.settings then
        IO.FS.writeBinFile (settingsPath homePath) (folder.settings.getD .empty)
      if folder.hasLog then
        let log ← IO.FS.Handle.mk (logPath homePath) .append
        log.flush

end LineEditor.CommandLine

open LineEditor LineEditor.CommandLine

/-- Runs the program on the words of its command line. -/
def main (arguments : List String) : IO UInt32 := do
  let homePath := (← IO.getEnv "HOME").getD ""
  let logFilter := (← IO.getEnv "EDX_LOG").getD ""
  let home ← readHome homePath
  let (decision, next) := prepare { arguments, logFilter, homePath } home
  writeHome homePath home next
  match decision with
  | .finish status output diagnostics =>
      IO.print output
      IO.eprint diagnostics
      return status.toUInt32
  | .crash warnings =>
      IO.eprint warnings
      return 101
  | .edit setup =>
      editFile setup
      return 0
