import LineEditor.Command.Basic
import LineEditor.Execution.Lines
import LineEditor.Files.Storage
import LineEditor.Input

/-! What running a command does to the buffer, what it asks of the world outside first, and how that
is carried out in a world of pending input and files.
-/

namespace LineEditor

open Text (FileText)

/-- Whether the session goes on after a command. -/
inductive Outcome where
  | goOn
  | quit
  deriving DecidableEq, Repr

/-- What a command leaves, also where it fails: the buffer as it then stands, what was printed
until then, and how it ended.
-/
structure Change where
  buffer : Buffer
  output : String := ""
  result : Except EditError Outcome := .ok .goOn

/-- How a command is carried out. It is done at once, or it needs one thing from outside: text
that is typed after it, the lines of a file, or a file written.
-/
inductive Plan where
  | done (change : Change)
  | takeText (next : List String → Change)
  | load (path : String) (next : Except FileError FileText → Change)
  | save (path : String) (lines : List String) (next : Except FileError Nat → Change)

/-- The end of a walk that went well. -/
def Walk.change (walk : Walk) : Change :=
  { buffer := walk.finish, output := walk.output }

namespace Buffer

/-- The buffer left as it is by a command that fails. -/
def refuse (buffer : Buffer) (error : EditError) : Change :=
  { buffer := buffer, result := .error error }

/-- Runs a command on each line of a range. A substitution has to find a match somewhere; where
it finds none the walk is given up as it stands.
-/
def runEach (buffer : Buffer) (range : LineRange) (command : LineCommand) : Change :=
  if buffer.isEmpty then buffer.refuse .badRange
  else
    let walk := Walk.along command.run buffer range
    match command with
    | .substitute _ =>
        if walk.replaced = 0 then
          { buffer := walk.buffer, output := walk.output, result := .error .noMatch }
        else walk.change
    | _ => walk.change

/-- Runs a global command on the lines of a range. -/
def runGlobal (buffer : Buffer) (range : LineRange) (global : GlobalCommand) : Change :=
  if buffer.isEmpty then buffer.refuse .badRange
  else (Walk.along global.run buffer range).change

/-- Puts typed text in its place. The last line of the text becomes current; where there is no
text, only a change moves the current line.
-/
def enterText (buffer : Buffer) (range : LineRange) (mode : InputMode)
    (lines : List String) : Buffer :=
  let (buffer, index) :=
    match mode with
    | .change => (buffer.delete range, range.first)
    | .insert => (buffer, range.first)
    | .append => (buffer, if buffer.isEmpty then 0 else range.last + 1)
  let buffer := buffer.insert index lines
  if !lines.isEmpty then buffer.setDot (index + lines.length - 1)
  else if mode = .change then buffer.setDot index
  else buffer

/-- Moves the lines of a range behind a destination outside of it. The last line moved becomes
current.
-/
def moveLines (buffer : Buffer) (range : LineRange) (destination : Int) : Change :=
  let inside := (range.first : Int) ≤ destination && destination ≤ range.last
  if buffer.isEmpty then buffer.refuse .badRange
  else if destination < -1 || destination > buffer.lastIndex || inside then
    buffer.refuse .badMoveTarget
  else
    let moved := buffer.slice range
    let behind := if destination > range.last then destination - moved.length else destination
    let index := (behind + 1).toNat
    { buffer := ((buffer.delete range).insert index moved).setDot (index + moved.length - 1) }

/-- Takes over the lines of a file that was read. -/
def takeFile (buffer : Buffer) (path : String) : Except FileError FileText → Change
  | .ok text => { buffer := (buffer.replaceAll text.lines).setFilename path }
  | .error error => buffer.refuse (.file error)

/-- Notes that the lines were written to a file. -/
def noteSaved (buffer : Buffer) (path : String) : Except FileError Nat → Change
  | .ok _ => { buffer := (buffer.setFilename path).markClean }
  | .error error => buffer.refuse (.file error)

/-- The buffer after an attempt to read the file that editing starts with. If it cannot be
read, its name is still the buffer's unless it has one.
-/
def opened (buffer : Buffer) (path : String) : Except FileError FileText → Buffer
  | .ok text => (buffer.replaceAll text.lines).setFilename path
  | .error _ => if buffer.filename.isNone then buffer.setFilename path else buffer

end Buffer

/-- How a command is carried out on a buffer. -/
def Command.plan (command : Command) (buffer : Buffer) : Plan :=
  match command.operation with
  | .each inner => .done (buffer.runEach command.range inner)
  | .global inner => .done (buffer.runGlobal command.range inner)
  | .input mode =>
      if mode = .change && buffer.isEmpty then .done (buffer.refuse .badRange)
      else .takeText fun lines => { buffer := buffer.enterText command.range mode lines }
  | .move destination => .done (buffer.moveLines command.range destination)
  | .read path => .load path (buffer.takeFile path)
  | .write path => .save path buffer.lines (buffer.noteSaved path)
  | .quit => .done { buffer := buffer, result := .ok .quit }

/-- What surrounds a session: the input still to be read and the files. The settings and the log of
the program are no part of it, even if the home directory is among these files.
-/
structure World where
  input : Input
  files : FileTree
  deriving DecidableEq

/-- Carries out a plan. What writing a file leaves of the files stays, also where it fails. -/
def Plan.run (plan : Plan) (world : World) : Change × World :=
  match plan with
  | .done change => (change, world)
  | .takeText next =>
      let (lines, input) := world.input.takeText
      (next lines, { world with input := input })
  | .load path next => (next (world.files.load path), world)
  | .save path lines next =>
      let (result, files) := world.files.save path lines
      (next result, { world with files := files })

end LineEditor
