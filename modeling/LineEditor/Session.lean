import LineEditor.Execution.Plan

/-! Sessions: command lines taken from the input one after the other, and errors reported. -/

namespace LineEditor

/-- A session: what is edited, what surrounds it, what it has written to its two channels, the
prompt before each command and the last error.
-/
structure Session where
  context : Context
  world : World
  output : String := ""
  diagnostics : String := ""
  prompt : Option String := none
  lastError : Option EditError := none

namespace Session

/-- Reports an error on the diagnostic channel. -/
def report (session : Session) (error : EditError) : Session :=
  { session with
    diagnostics := session.diagnostics ++ error.diagnostic
    lastError := some error }

/-- Takes over the buffer and the output that a command leaves. -/
def adopt (session : Session) (change : Change) : Session :=
  { session with
    context := { session.context with buffer := change.buffer }
    output := session.output ++ change.output }

/-- Carries out a command on the session's buffer, and reports its error if it fails. What it
did before it failed stays.
-/
def runCommand (session : Session) (command : Command) : Outcome × Session :=
  let (change, world) := (command.plan session.context.buffer).run session.world
  let session := { session with world := world }.adopt change
  match change.result with
  | .ok outcome => (outcome, session)
  | .error error => (.goOn, session.report error)

/-- Reads and carries out a command line. What reading remembers stays, whatever comes of it. -/
def runLine (session : Session) (line : String) : Outcome × Session :=
  let (command, memory) := session.context.readCommand line
  let session := { session with context := session.context.withMemory memory }
  match command with
  | .ok command => session.runCommand command
  | .error error => (.goOn, session.report error)

/-- Reads the file that editing starts with. -/
def «open» (session : Session) (path : String) : Session :=
  let result := session.world.files.load path
  let buffer := session.context.buffer.opened path result
  let session := { session with context := { session.context with buffer := buffer } }
  match result with
  | .ok _ => session
  | .error error => session.report (.file error)

/-- Prints the prompt, if there is one. -/
def showPrompt (session : Session) : Session :=
  { session with output := session.output ++ session.prompt.getD "" }

/-- Takes the next command line from the input. -/
def nextLine (session : Session) : Option String × Session :=
  let (line, input) := session.world.input.next
  (line, { session with world := { session.world with input := input } })

/-- Takes and runs command lines until one quits or the input ends, at most so many. -/
def runLines : Nat → Session → Session
  | 0, session => session
  | turns + 1, session =>
      match session.showPrompt.nextLine with
      | (none, session) => session
      | (some line, session) =>
          match session.runLine line with
          | (.quit, session) => session
          | (.goOn, session) => runLines turns session

/-- Runs to the end. Every command takes a line of the input, so that their number bounds the
turns.
-/
def run (session : Session) : Session :=
  runLines (session.world.input.pending.length + 1) session

end Session

end LineEditor
