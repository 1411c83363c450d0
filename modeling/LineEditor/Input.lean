import LineEditor.Text.Lines

/-! The input of a session: lines that commands and the text after them are taken from. -/

namespace LineEditor

/-- Lines still to be read. A line that cannot be decoded stands as none: taking it answers
like the end of the input.
-/
structure Input where
  pending : List (Option String)
  deriving DecidableEq, Repr

namespace Input

/-- Input of given lines. -/
def ofLines (lines : List String) : Input := ⟨lines.map some⟩

/-- Input of the lines that bytes hold. -/
def ofBytes (bytes : ByteArray) : Input :=
  ⟨(Text.rawLines bytes.toList).map Text.RawLine.typed?⟩

/-- Takes the next line; there is none at the end of the input. -/
def next (input : Input) : Option String × Input :=
  match input.pending with
  | [] => (none, input)
  | line :: pending => (line, ⟨pending⟩)

/-- Takes lines up to one that is a lone dot, which is taken too, or up to the end. -/
def textFrom : List (Option String) → List String × List (Option String)
  | [] => ([], [])
  | none :: pending => ([], pending)
  | some line :: pending =>
      if line = "." then ([], pending)
      else
        let (lines, pending) := textFrom pending
        (line :: lines, pending)

/-- Takes the text of a command that adds lines. -/
def takeText (input : Input) : List String × Input :=
  let (lines, pending) := textFrom input.pending
  (lines, ⟨pending⟩)

/-- Every line that the input gives before its first end. -/
def lines (input : Input) : List String :=
  (input.pending.takeWhile Option.isSome).filterMap id

end Input

end LineEditor
