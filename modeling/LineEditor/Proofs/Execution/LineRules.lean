import Mathlib.Data.List.DropRight
import LineEditor.Execution.Lines
import LineEditor.Proofs.Pattern.Cuts

/-! Rules for single lines. A rule tells for each line by itself whether a command is for it, what
it leaves of the line and what it prints; from these follow what it makes of many lines, without
any walk over them.
-/

namespace LineEditor

----------------------------------------------------------------------------------------
-- Single lines
----------------------------------------------------------------------------------------

namespace LineCommand

/-- The command does something with the line: a substitution only where its pattern matches. -/
def actsOn (command : LineCommand) (line : String) : Bool :=
  match command with
  | .substitute substitution => substitution.pattern.isMatch line
  | _ => true

/-- What stands in the place of the line afterwards, unless it is deleted. -/
def leaves (command : LineCommand) (line : String) : Option String :=
  match command with
  | .print | .number => some line
  | .delete => none
  | .substitute substitution => some ((substitution.apply line).getD line)

/-- What is printed of the line. Numbers count from one and come before the line; a substitution
prints its result if its options ask for it.
-/
def prints (command : LineCommand) (index : Nat) (line : String) : String :=
  match command with
  | .print => line ++ "\n"
  | .number => toString (index + 1) ++ "\t" ++ line ++ "\n"
  | .delete => ""
  | .substitute substitution =>
      if substitution.options.print then ((substitution.apply line).map (· ++ "\n")).getD ""
      else ""

end LineCommand

/-- A command on single lines, and the lines that it is for. -/
structure LineRule where
  selects : String → Bool
  command : LineCommand

/-- The rule of a command that is for every line. -/
def LineCommand.rule (command : LineCommand) : LineRule :=
  ⟨fun _ => true, command⟩

/-- The rule of a global command, which is for the lines that match or for those that do not. -/
def GlobalCommand.rule (global : GlobalCommand) : LineRule :=
  ⟨fun line => global.pattern.isMatch line == global.matching, global.command⟩

/-- The rule of an operation that acts on each line by itself. -/
def Operation.lineRule? (operation : Operation) : Option LineRule :=
  match operation with
  | .each command => some command.rule
  | .global command => some command.rule
  | _ => none

namespace LineRule

/-- The line is selected, and the command does something with it. -/
def actsOn (rule : LineRule) (line : String) : Bool :=
  rule.selects line && rule.command.actsOn line

/-- What stands in the place of the line afterwards, unless it is deleted. -/
def leaves (rule : LineRule) (line : String) : Option String :=
  if rule.selects line then rule.command.leaves line else some line

/-- What is printed of the line. -/
def prints (rule : LineRule) (index : Nat) (line : String) : String :=
  if rule.selects line then rule.command.prints index line else ""

/-- A line that the rule does not act on stays as it is. -/
theorem leaves_of_not_actsOn {rule : LineRule} {line : String}
    (spared : rule.actsOn line = false)
    : rule.leaves line = some line := by
  unfold actsOn at spared
  unfold leaves
  split
  · next selected =>
      rw [selected, Bool.true_and] at spared
      cases command : rule.command with
      | print | number | delete => simp [LineCommand.actsOn, command] at spared
      | substitute substitution =>
          have unmatched : substitution.apply line = none := by
            simpa [command, LineCommand.actsOn, ← substitution.isSome_apply] using spared
          simp [LineCommand.leaves, unmatched]
  · rfl

end LineRule

----------------------------------------------------------------------------------------
-- Rules of commands
----------------------------------------------------------------------------------------

namespace LineEffect

/-- What the effect leaves of a line. -/
def leaves (effect : LineEffect) (line : String) : Option String :=
  match effect with
  | .untouched | .kept => some line
  | .replaced text => some text
  | .deleted => none

/-- The effect makes its line a visited one. -/
def visits : LineEffect → Bool
  | .untouched => false
  | .kept | .replaced _ | .deleted => true

end LineEffect

/-- What is run on each line has the effects and the output that the rule tells. -/
structure LineRule.Governs (rule : LineRule) (run : Nat → String → LineResult) : Prop where
  visits : ∀ index line, (run index line).effect.visits = rule.actsOn line
  leaves : ∀ index line, (run index line).effect.leaves line = rule.leaves line
  prints : ∀ index line, (run index line).printed = rule.prints index line

namespace LineCommand

variable (command : LineCommand) (index : Nat) (line : String)

/-- A command visits the lines that it acts on. -/
theorem visits_run : (command.run index line).effect.visits = command.actsOn line := by
  cases command with
  | print | number | delete => rfl
  | substitute substitution =>
      simp only [run, actsOn]
      rw [← substitution.isSome_apply]
      cases substitution.apply line <;> rfl

/-- The effect of a command leaves what the command leaves. -/
theorem leaves_run : (command.run index line).effect.leaves line = command.leaves line := by
  cases command with
  | print | number | delete => rfl
  | substitute substitution =>
      simp only [run, leaves]
      cases substitution.apply line <;> rfl

/-- A command prints what its result says. -/
theorem printed_run : (command.run index line).printed = command.prints index line := by
  cases command with
  | print | number | delete => rfl
  | substitute substitution =>
      simp only [run, prints]
      cases substitution.apply line with
      | none => exact (ite_self "").symm
      | some text => rfl

end LineCommand

/-- A command that is run on every line is governed by its rule. -/
theorem LineCommand.governs (command : LineCommand) : command.rule.Governs command.run :=
  {
    visits := by simp [visits_run, rule, LineRule.actsOn]
    leaves := by simp [leaves_run, rule, LineRule.leaves]
    prints := by simp [printed_run, rule, LineRule.prints]
  }

/-- A global command is governed by its rule: on a selected line its inner command is run, and a
line that is not selected is not touched.
-/
theorem GlobalCommand.governs (global : GlobalCommand) : global.rule.Governs global.run := by
  have selects (line : String) : global.rule.selects line = global.selects line := rfl
  constructor <;> intro index line <;> unfold run
  · rw [LineRule.actsOn, selects]
    cases global.selects line with
    | true => exact LineCommand.visits_run _ _ _
    | false => rfl
  · rw [LineRule.leaves, selects]
    cases global.selects line with
    | true => exact LineCommand.leaves_run _ _ _
    | false => rfl
  · rw [LineRule.prints, selects]
    cases global.selects line with
    | true => exact LineCommand.printed_run _ _ _
    | false => rfl

----------------------------------------------------------------------------------------
-- Many lines
----------------------------------------------------------------------------------------

namespace LineRule

variable (rule : LineRule) (first : Nat) (lines : List String) (line : String)

/-- What is printed of lines of which the first has an index. -/
def printed (rule : LineRule) (first : Nat) (lines : List String) : String :=
  String.join ((lines.zipIdx first).map fun (line, index) => rule.prints index line)

/-- Where the current line comes to lie: behind what is left of the lines above the last one that
the rule acts on. There is no such place if the rule acts on none of the lines.
-/
def landing? (rule : LineRule) (first : Nat) (lines : List String) : Option Nat :=
  match lines.rdropWhile fun line => !rule.actsOn line with
  | [] => none
  | reached => some (first + (reached.dropLast.filterMap rule.leaves).length)

/-- The line as it stands before lines are deleted. -/
def rewrites (rule : LineRule) (line : String) : String :=
  (rule.leaves line).getD line

/-- The indices of the lines that are deleted. -/
def marks (rule : LineRule) (first : Nat) (lines : List String) : List Nat :=
  ((lines.zipIdx first).filter fun (line, _) => (rule.leaves line).isNone).map Prod.snd

theorem printed_concat
    : rule.printed first (lines ++ [line])
      = rule.printed first lines ++ rule.prints (first + lines.length) line := by
  simp [printed, List.zipIdx_append]

theorem landing?_concat
    : rule.landing? first (lines ++ [line])
      = if rule.actsOn line then some (first + (lines.filterMap rule.leaves).length)
        else rule.landing? first lines := by
  unfold landing?
  rw [List.rdropWhile_concat]
  cases rule.actsOn line with
  | false => rfl
  | true =>
      simp only [Bool.not_true, Bool.false_eq_true, if_false, if_true]
      cases whole : lines ++ [line] with
      | nil => simp at whole
      | cons _ _ => simp [← whole]

theorem marks_concat
    : rule.marks first (lines ++ [line])
      = rule.marks first lines
        ++ if (rule.leaves line).isNone then [first + lines.length] else [] := by
  unfold marks
  rw [List.zipIdx_append, List.filter_append, List.map_append, List.zipIdx_singleton]
  cases deleted : (rule.leaves line).isNone <;> simp [deleted]

theorem marks_cons
    : rule.marks first (line :: lines)
      = (if (rule.leaves line).isNone then [first] else []) ++ rule.marks (first + 1) lines := by
  unfold marks
  rw [List.zipIdx_cons]
  cases deleted : (rule.leaves line).isNone <;> simp [deleted]

/-- A line is left or marked, by induction on the lines. -/
theorem length_filterMap_leaves
    : (lines.filterMap rule.leaves).length + (rule.marks first lines).length = lines.length := by
  induction lines generalizing first with
  | nil => rfl
  | cons line rest ih =>
      have rest := ih (first + 1)
      rw [marks_cons]
      cases left : rule.leaves line with
      | none =>
          simp only [List.filterMap_cons_none left, Option.isNone_none, if_true, List.length_append,
            List.length_cons, List.length_nil]
          omega
      | some text =>
          simp only [List.filterMap_cons_some left, Option.isNone_some, Bool.false_eq_true,
            if_false, List.nil_append, List.length_cons]
          omega

/-- The marks lie among the lines. -/
theorem marks_lt {index : Nat} (marked : index ∈ rule.marks first lines)
    : index < first + lines.length := by
  simp only [marks, List.mem_map, List.mem_filter] at marked
  obtain ⟨⟨line, found⟩, ⟨member, _⟩, rfl⟩ := marked
  exact List.snd_lt_add_of_mem_zipIdx member

/-- A current line that comes to lie nowhere tells that the rule acts on none of the lines. -/
theorem landing?_eq_none_iff
    : rule.landing? first lines = none ↔ ∀ line ∈ lines, rule.actsOn line = false := by
  have reached
      : rule.landing? first lines = none
        ↔ lines.rdropWhile (fun line => !rule.actsOn line) = [] := by
    unfold landing?
    split <;> simp_all
  rw [reached, List.rdropWhile_eq_nil_iff]
  simp only [Bool.not_eq_true']

/-- Nothing is marked where the rule acts on none of the lines. -/
theorem marks_eq_nil {first : Nat} {lines : List String}
    (spared : ∀ line ∈ lines, rule.actsOn line = false)
    : rule.marks first lines = [] := by
  simp only [marks, List.map_eq_nil_iff, List.filter_eq_nil_iff]
  rintro ⟨line, index⟩ member
  simp [leaves_of_not_actsOn (spared line (List.fst_mem_of_mem_zipIdx member))]

/-- The lines change exactly if one of them gets another text or is marked, by induction on the
lines. If the first one is marked, fewer lines are left than there were.
-/
theorem filterMap_leaves_bne
    : (lines.filterMap rule.leaves != lines)
      = ((lines.any fun line => rule.rewrites line != line)
        || !(rule.marks first lines).isEmpty) := by
  induction lines generalizing first with
  | nil => rfl
  | cons line rest ih =>
      rw [rule.marks_cons, List.any_cons, rewrites]
      cases left : rule.leaves line with
      | none =>
          have fewer : rest.filterMap rule.leaves ≠ line :: rest := by
            intro same
            have count := List.length_filterMap_le rule.leaves rest
            rw [same, List.length_cons] at count
            omega
          simp [List.filterMap_cons_none left, fewer]
      | some text =>
          have tail := ih (first + 1)
          have head (kept : List String)
              : (text :: kept != line :: rest) = (text != line || kept != rest) := by
            simp [bne, Bool.not_and]
          rw [List.filterMap_cons_some left, head, tail, Bool.or_assoc]
          rfl

end LineRule

----------------------------------------------------------------------------------------
-- Buffers
----------------------------------------------------------------------------------------

namespace LineRule

/-- The lines of a buffer after the rule: what it leaves of the lines of a range, between the lines
before the range and those behind it.
-/
def linesAfter (rule : LineRule) (buffer : Buffer) (range : LineRange) : List String :=
  buffer.lines.take range.first
    ++ (buffer.slice range).filterMap rule.leaves
    ++ buffer.lines.drop (range.last + 1)

/-- The buffer after the rule. The current line stays where the rule acts on no line, and other
lines than before are an unsaved change.
-/
def bufferAfter (rule : LineRule) (buffer : Buffer) (range : LineRange) : Buffer :=
  let lines := rule.linesAfter buffer range
  {
    lines := lines
    dot :=
      match rule.landing? range.first (buffer.slice range) with
      | none => buffer.dot
      | some index => min index (lines.length - 1)
    dirty := buffer.dirty || lines != buffer.lines
    filename := buffer.filename
  }

end LineRule

end LineEditor
