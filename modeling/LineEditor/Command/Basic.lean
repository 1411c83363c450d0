import LineEditor.Command.Operation
import LineEditor.Command.Range

/-! Whole command lines: the range in front, checked against the buffer, and the operation. -/

namespace LineEditor

/-- A command that can be run. -/
structure Command where
  range : LineRange
  operation : Operation
  deriving DecidableEq, Repr

/-- The lines that a command works on. Without an address, a global command takes the whole
buffer, which may not be empty.
-/
def Context.commandRange (context : Context) (addresses : Addresses)
    : Except EditError LineRange :=
  if !addresses.explicit && addresses.rest.head?.any (fun c => c == 'g' || c == 'v') then
    if context.buffer.isEmpty then .error .badRange
    else .ok ⟨0, context.buffer.size - 1⟩
  else context.buffer.checkRange addresses.first addresses.last

/-- Reads a command line. The range is checked before the operation is read, and text behind
the operation is ignored.
-/
def Context.readCommand (context : Context) (line : String) : Recalled Command :=
  match context.readRange line.toList with
  | (.error error, memory) => (.error error, memory)
  | (.ok addresses, memory) =>
      match context.commandRange addresses with
      | .error error => (.error error, memory)
      | .ok range =>
          match (context.withMemory memory).readOperation addresses.rest with
          | (.error error, memory) => (.error error, memory)
          | (.ok (operation, _), memory) => (.ok ⟨range, operation⟩, memory)

end LineEditor
