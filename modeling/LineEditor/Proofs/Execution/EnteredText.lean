import LineEditor.Execution.Plan
import LineEditor.Proofs.Buffer.Splices

/-! Text that is entered into a buffer. It is spliced into the lines where the mode of the command
tells, and takes the place of a range only where lines are changed.
-/

namespace LineEditor

namespace Buffer

/-- The lines that text comes behind. -/
def ahead (buffer : Buffer) (range : LineRange) : InputMode → List String
  | .append => buffer.lines.take (range.last + 1)
  | .insert | .change => buffer.lines.take range.first

/-- The lines that come behind text. -/
def behind (buffer : Buffer) (range : LineRange) : InputMode → List String
  | .append | .change => buffer.lines.drop (range.last + 1)
  | .insert => buffer.lines.drop range.first

/-- What a buffer becomes when text is entered. The text is put between two parts of the lines, and
only a change leaves out the range between these. The last line of the text becomes current. Where
there is no text a change has deleted the range, and otherwise nothing happens.
-/
structure Entered (buffer : Buffer) (range : LineRange) (mode : InputMode) (text : List String)
    (after : Buffer)
    : Prop where
  lines : after.lines = buffer.ahead range mode ++ text ++ buffer.behind range mode
  filename : after.filename = buffer.filename
  dirty : text ≠ [] ∨ mode = .change → after.dirty = true
  current : text ≠ [] → after.dot + 1 = (buffer.ahead range mode ++ text).length
  clamped : text = [] → mode = .change → after.dot = min range.first (after.size - 1)
  unchanged : text = [] → mode ≠ .change → after = buffer

variable {buffer : Buffer} {range : LineRange}

/-- The buffer that text is put into, and the index at which it is put. -/
def textPlace (buffer : Buffer) (range : LineRange) : InputMode → Buffer × Nat
  | .change => (buffer.delete range, range.first)
  | .insert => (buffer, range.first)
  | .append => (buffer, if buffer.isEmpty then 0 else range.last + 1)

/-- The place lies between the two parts of the lines. -/
theorem textPlace_lines (buffer : Buffer) (range : LineRange) (mode : InputMode)
    : (buffer.textPlace range mode).1.lines
      = buffer.ahead range mode ++ buffer.behind range mode := by
  cases mode with
  | append | insert => exact (List.take_append_drop _ _).symm
  | change => rfl

/-- The index of the place counts the lines that the text comes behind. An empty buffer has none of
them, whatever range it is asked for.
-/
theorem textPlace_index (has : buffer.HasRange range) (mode : InputMode)
    : (buffer.textPlace range mode).2 = (buffer.ahead range mode).length := by
  cases mode with
  | append =>
      show (if buffer.isEmpty then 0 else range.last + 1) = (buffer.lines.take _).length
      rw [List.length_take]
      split
      · next empty => simp [List.isEmpty_iff.mp empty]
      · next filled =>
          have last := has.last_lt filled
          unfold size at last
          omega
  | insert | change => exact has.length_take_first.symm

/-- Without text only a change does something. -/
theorem enterText_nil (buffer : Buffer) (range : LineRange) (mode : InputMode)
    : buffer.enterText range mode []
      = if mode = .change then (buffer.delete range).setDot range.first else buffer := by
  cases mode <;> rfl

/-- Text is put in its place, and its last line becomes current. -/
theorem enterText_of_ne_nil {text : List String} (some : text ≠ []) (buffer : Buffer)
    (range : LineRange) (mode : InputMode)
    : buffer.enterText range mode text
      = ((buffer.textPlace range mode).1.insert (buffer.textPlace range mode).2 text).setDot
          ((buffer.textPlace range mode).2 + text.length - 1) := by
  have filled : (!text.isEmpty) = true := by simp [some]
  cases mode <;> exact if_pos filled

/-- Entering text splices it into the lines. -/
theorem entered_enterText (has : buffer.HasRange range) (mode : InputMode) (text : List String)
    : buffer.Entered range mode text (buffer.enterText range mode text) := by
  have place := buffer.textPlace_lines range mode
  by_cases none : text = []
  · subst none
    rw [← List.append_nil (buffer.ahead range mode)] at place
    rw [enterText_nil]
    cases mode with
    | change =>
        exact {
          lines := place
          filename := rfl
          dirty := fun _ => rfl
          current := fun some => absurd rfl some
          clamped := fun _ _ => rfl
          unchanged := fun _ other => absurd rfl other
        }
    | append | insert =>
        exact {
          lines := place
          filename := rfl
          dirty := by simp
          current := fun some => absurd rfl some
          clamped := nofun
          unchanged := fun _ _ => rfl
        }
  · have count : 0 < text.length := List.length_pos_iff.mpr none
    have lines
        : ((buffer.textPlace range mode).1.insert (buffer.ahead range mode).length text).lines
          = buffer.ahead range mode ++ text ++ buffer.behind range mode :=
      insert_lines_of_append place
    rw [enterText_of_ne_nil none, textPlace_index has]
    exact {
      lines := lines
      filename := by cases mode <;> simp [textPlace]
      dirty := by
        intro _
        show (Buffer.insert _ _ _).dirty = true
        simp [none]
      current := by
        intro _
        rw [setDot_dot, size, lines]
        simp only [List.length_append]
        omega
      clamped := fun empty => absurd empty none
      unchanged := fun empty => absurd empty none
    }

/-- An empty buffer has nothing around the text. -/
theorem Entered.lines_of_isEmpty {mode : InputMode} {text : List String} {after : Buffer}
    (entered : buffer.Entered range mode text after) (empty : buffer.isEmpty = true)
    : after.lines = text := by
  have none : buffer.lines = [] := List.isEmpty_iff.mp empty
  rw [entered.lines]
  cases mode <;> simp [ahead, behind, none]

end Buffer

end LineEditor
