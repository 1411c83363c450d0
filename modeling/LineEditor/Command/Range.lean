import LineEditor.Command.Address

/-! Ranges: up to two addresses in front of a command, and the check against the buffer. -/

namespace LineEditor

/-- The addresses in front of a command, before they are checked: both ends, whether any
address was written, and the text after them.
-/
structure Addresses where
  first : Int
  last : Int
  explicit : Bool
  rest : List Char
  deriving DecidableEq, Repr

/-- Reads the second address, after the comma; the last line stands for a missing one. -/
def Context.readSecond (context : Context) (first : Int) (text : List Char)
    : Recalled Addresses :=
  match context.readAddress (.second first) text with
  | (.error error, memory) => (.error error, memory)
  | (.ok (last, rest), memory) =>
      (.ok ⟨first, last.getD context.buffer.lastIndex, true, rest⟩, memory)

/-- Reads the addresses in front of a command; the current line stands for a missing first. -/
def Context.readRange (context : Context) (text : List Char) : Recalled Addresses :=
  match context.readAddress .first text with
  | (.error error, memory) => (.error error, memory)
  | (.ok (address, rest), memory) =>
      let first := address.getD context.buffer.dot
      match rest with
      | ',' :: rest => (context.withMemory memory).readSecond first rest
      | _ => (.ok ⟨first, first, address.isSome, rest⟩, memory)

/-- Checks two ends against the buffer. An empty buffer has only the range of index zero. -/
def Buffer.checkRange (buffer : Buffer) (first last : Int) : Except EditError LineRange :=
  if first < 0 || last < 0 || first > last || last > max buffer.lastIndex 0 then
    .error .badRange
  else .ok ⟨first.toNat, last.toNat⟩

end LineEditor
