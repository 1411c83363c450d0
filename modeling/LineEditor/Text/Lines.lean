/-! Lines of text in bytes: cutting at line feeds, decoding, and the two ways to end a line. -/

namespace LineEditor.Text

/-- Contents are equal if their bytes are. -/
instance decidableEqContent : DecidableEq ByteArray := ByteArray.instDecidableEq

/-- The byte that ends a line. -/
def lineFeed : UInt8 := 10

/-- A line as bytes, without the line feed that ends it; `ended` tells whether there was one. -/
structure RawLine where
  bytes : List UInt8
  ended : Bool
  deriving DecidableEq, Repr

/-- Cuts bytes into lines; `line` and `lines` are what has been cut before, the last first. -/
def rawLinesFrom (line : List UInt8) (lines : List RawLine) : List UInt8 → List RawLine
  | [] => (if line.isEmpty then lines else ⟨line.reverse, false⟩ :: lines).reverse
  | byte :: bytes =>
      if byte = lineFeed then rawLinesFrom [] (⟨line.reverse, true⟩ :: lines) bytes
      else rawLinesFrom (byte :: line) lines bytes

/-- Cuts bytes into lines at line feeds. A last line without one counts if it is not empty. -/
def rawLines (bytes : List UInt8) : List RawLine :=
  rawLinesFrom [] [] bytes

/-- The text that bytes encode, if they encode one. -/
def decode? (bytes : List UInt8) : Option String :=
  String.fromUTF8? ⟨bytes.toArray⟩

/-- The text without a carriage return at its end. -/
def dropReturn (text : String) : String :=
  match text.toList.reverse with
  | '\r' :: rest => String.ofList rest.reverse
  | _ => text

namespace RawLine

/-- The line as typed input: a carriage return before the line feed belongs to the line's end,
one at the end of the input does not.
-/
def typed? (line : RawLine) : Option String :=
  (decode? line.bytes).map fun text => if line.ended then dropReturn text else text

/-- The line as stored in a file: a carriage return at its end belongs to the line's end. -/
def stored? (line : RawLine) : Option String :=
  (decode? line.bytes).map dropReturn

end RawLine

/-- The lines of a file and the number of bytes they take there. -/
structure FileText where
  lines : List String
  bytes : Nat
  deriving DecidableEq, Repr

/-- Reads the lines of a file; one that cannot be decoded spoils all of them. -/
def FileText.ofBytes? (content : ByteArray) : Option FileText :=
  ((rawLines content.toList).mapM RawLine.stored?).map fun lines => ⟨lines, content.size⟩

/-- Lines as the content of a file, a line feed after each. -/
def fileContent (lines : List String) : ByteArray :=
  (String.join (lines.map (· ++ "\n"))).toUTF8

end LineEditor.Text
