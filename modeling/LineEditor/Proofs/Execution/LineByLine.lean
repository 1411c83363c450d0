import LineEditor.Proofs.Buffer.Splices
import LineEditor.Proofs.Execution.CommandEnds
import LineEditor.Proofs.Execution.LineRules

/-! Commands on single lines, line by line. Walking over a range, replacing lines on the way and
deleting the marked ones behind it comes to what the rule of the command makes of each line by
itself, as the line was before the command.
-/

namespace LineEditor

----------------------------------------------------------------------------------------
-- Lines of a range
----------------------------------------------------------------------------------------

/-- The lines of a buffer change exactly if those of the range do. -/
theorem LineRule.linesAfter_bne (rule : LineRule) {buffer : Buffer} {range : LineRange}
    (ordered : range.first ≤ range.last)
    : (rule.linesAfter buffer range != buffer.lines)
      = ((buffer.slice range).filterMap rule.leaves != buffer.slice range) := by
  have lines := buffer.lines_eq_slice ordered
  have same
      : rule.linesAfter buffer range = buffer.lines
        ↔ (buffer.slice range).filterMap rule.leaves = buffer.slice range := by
    rw [← List.append_assoc] at lines
    conv_lhs => rhs; rw [lines]
    rw [linesAfter, List.append_left_inj, List.append_right_inj]
  rw [Bool.eq_iff_iff, bne_iff_ne, bne_iff_ne]
  exact not_congr same

----------------------------------------------------------------------------------------
-- Deleting marked lines
----------------------------------------------------------------------------------------

namespace Buffer

/-- Deletes the lines at some indices, the last index first. -/
def deleteMarked (buffer : Buffer) (marks : List Nat) : Buffer :=
  marks.foldr (fun index buffer => buffer.delete (.single index)) buffer

/-- Deleting lines one by one leaves the name of the file, by induction on the marks. -/
@[simp] theorem deleteMarked_filename (buffer : Buffer) (marks : List Nat)
    : (buffer.deleteMarked marks).filename = buffer.filename := by
  induction marks with
  | nil => rfl
  | cons index marks ih => exact (delete_filename _ _).trans ih

/-- Deleting a line is an unsaved change. -/
@[simp] theorem deleteMarked_dirty (buffer : Buffer) (marks : List Nat)
    : (buffer.deleteMarked marks).dirty = (buffer.dirty || !marks.isEmpty) := by
  cases marks with
  | nil => exact (Bool.or_false _).symm
  | cons index marks => exact (Bool.or_true _).symm

/-- Deleting the line behind some others leaves those and the ones after it. -/
theorem delete_lines_of_append {buffer : Buffer} {before behind : List String} {line : String}
    (lines : buffer.lines = before ++ line :: behind)
    : (buffer.delete (.single before.length)).lines = before ++ behind := by
  have cut : buffer.Cut (.single before.length) before [line] behind :=
    ⟨by simpa using lines, rfl, rfl⟩
  exact cut.delete_lines

/-- Deleting what a rule marks leaves what the rule leaves, by induction on the lines: those after
the first one are deleted before it, so that they lie where they were.
-/
theorem deleteMarked_lines (rule : LineRule) (lines : List String) {buffer : Buffer}
    {before behind : List String}
    (found : buffer.lines = before ++ lines.map rule.rewrites ++ behind)
    : (buffer.deleteMarked (rule.marks before.length lines)).lines
      = before ++ lines.filterMap rule.leaves ++ behind := by
  induction lines generalizing before with
  | nil => exact found
  | cons line rest ih =>
      have rewritten
          : (buffer.deleteMarked (rule.marks (before.length + 1) rest)).lines
            = before ++ rule.rewrites line :: (rest.filterMap rule.leaves ++ behind) := by
        have := @ih (before ++ [rule.rewrites line]) (by simpa using found)
        simpa using this
      rw [rule.marks_cons]
      cases left : rule.leaves line with
      | none =>
          rw [List.filterMap_cons_none left, List.append_assoc]
          exact delete_lines_of_append rewritten
      | some text =>
          have same : rule.rewrites line = text := by simp [LineRule.rewrites, left]
          rw [List.filterMap_cons_some left, ← same]
          simpa using rewritten

end Buffer

----------------------------------------------------------------------------------------
-- Walks by a rule
----------------------------------------------------------------------------------------

namespace Buffer

variable {buffer : Buffer} {index : Nat} {line text : String}

/-- Putting the same text in the place of a line does nothing. -/
theorem setLine_eq_self (found : buffer.lines[index]? = some text)
    : buffer.setLine index text = buffer :=
  if_pos found

/-- Whether a text is put in the place of a line or is there already, it is there afterwards. -/
theorem setLine_lines : (buffer.setLine index text).lines = buffer.lines.set index text := by
  unfold setLine
  split
  · next found =>
      obtain ⟨inside, same⟩ := List.getElem?_eq_some_iff.mp found
      rw [← same, List.set_getElem_self inside]
  · rfl

/-- Another text in the place of a line is an unsaved change. -/
theorem setLine_dirty (found : buffer.lines[index]? = some line)
    : (buffer.setLine index text).dirty = (buffer.dirty || text != line) := by
  unfold setLine
  split
  · next same => simp [Option.some.inj (found.symm.trans same)]
  · next other =>
      have changed : text ≠ line := by
        rintro rfl
        exact other found
      simp [changed]

end Buffer

namespace Walk

/-- The index that becomes current at the end of the walk, if it is not too great: that of the last
visited line, less the deleted lines above it.
-/
def landing? (walk : Walk) : Option Nat :=
  walk.visited.map fun index =>
    index - (walk.deleted.filter fun deleted => deleted < index).length

/-- A walk over a buffer that has come behind some lines, of which it has made what a rule tells;
none of them is deleted yet, and the lines before and behind them are as they were.
-/
structure Follows (walk : Walk) (rule : LineRule) (start : Buffer)
    (before done behind : List String)
    : Prop where
  lines : walk.buffer.lines = before ++ done.map rule.rewrites ++ behind
  dirty : walk.buffer.dirty = (start.dirty || done.any fun line => rule.rewrites line != line)
  dot : walk.buffer.dot = start.dot
  filename : walk.buffer.filename = start.filename
  output : walk.output = rule.printed before.length done
  deleted : walk.deleted = (rule.marks before.length done).reverse
  landing : walk.landing? = rule.landing? before.length done

variable {run : Nat → String → LineResult} {rule : LineRule} {start : Buffer} {walk : Walk}
  {before done behind rest : List String} {line : String}

/-- The walk finds the next line as it was. -/
theorem Follows.line_eq (follows : walk.Follows rule start before done (line :: rest))
    : walk.buffer.lines[before.length + done.length]? = some line := by
  rw [follows.lines, List.getElem?_append_right (by simp)]
  simp

/-- Where the current line would come to lie if the next line were visited: behind what is left of
the lines so far, because all that is deleted lies above.
-/
theorem Follows.landing_next (follows : walk.Follows rule start before done behind)
    : before.length + done.length
        - (walk.deleted.filter fun deleted =>
            deleted < before.length + done.length).length
      = before.length + (done.filterMap rule.leaves).length := by
  have above
      : (walk.deleted.filter fun deleted => deleted < before.length + done.length)
        = walk.deleted := by
    rw [List.filter_eq_self, follows.deleted]
    intro index member
    exact decide_eq_true (rule.marks_lt _ _ (List.mem_reverse.mp member))
  have count := rule.length_filterMap_leaves before.length done
  rw [above, follows.deleted, List.length_reverse]
  omega

/-- What a visit does is what the rule tells of the line that it finds, by cases on the effect. An
effect that leaves the line puts no other text in its place.
-/
theorem step_eq {index : Nat} (governs : rule.Governs run)
    (found : walk.buffer.lines[index]? = some line)
    : step run walk index
      = {
        buffer := walk.buffer.setLine index (rule.rewrites line)
        output := walk.output ++ rule.prints index line
        deleted :=
          if (rule.leaves line).isNone then index :: walk.deleted else walk.deleted
        visited := if rule.actsOn line then some index else walk.visited
        replaced := (step run walk index).replaced
      } := by
  have current : walk.buffer.line index = line := by
    simp [Buffer.line, found]
  have unchanged := Buffer.setLine_eq_self found
  unfold LineRule.rewrites
  rw [← governs.leaves index, ← governs.visits index, ← governs.prints index]
  simp only [step, current]
  cases (run index line).effect with
  | untouched | kept | deleted => simp [LineEffect.leaves, LineEffect.visits, unchanged]
  | replaced text => simp [LineEffect.leaves, LineEffect.visits]

/-- A visit follows the rule one line further. -/
theorem Follows.step (governs : rule.Governs run)
    (follows : walk.Follows rule start before done (line :: rest))
    : (Walk.step run walk (before.length + done.length)).Follows rule start before
        (done ++ [line]) rest := by
  rw [step_eq governs follows.line_eq]
  exact {
    lines := by
      have behind : (before ++ done.map rule.rewrites).length = before.length + done.length := by
        simp
      simp only [Buffer.setLine_lines, follows.lines]
      rw [List.set_append_right _ _ (by omega), behind, Nat.sub_self]
      simp
    dirty := by
      simp only [Buffer.setLine_dirty follows.line_eq, follows.dirty, List.any_append,
        List.any_cons, List.any_nil, Bool.or_false, Bool.or_assoc]
    dot := (Buffer.setLine_dot _ _ _).trans follows.dot
    filename := (Buffer.setLine_filename _ _ _).trans follows.filename
    output := by
      dsimp only
      rw [follows.output, rule.printed_concat]
    deleted := by
      dsimp only
      rw [rule.marks_concat, List.reverse_append, ← follows.deleted]
      cases (rule.leaves line).isNone <;> rfl
    landing := by
      rw [rule.landing?_concat, ← follows.landing]
      unfold landing?
      cases acted : rule.actsOn line with
      | false => simp [LineRule.leaves_of_not_actsOn acted]
      | true =>
          -- The line itself is not above itself, deleted or not.
          have above := follows.landing_next
          cases (rule.leaves line).isNone <;> simpa using above
  }

/-- Visits of consecutive lines follow the rule over all of them, by induction on the lines. -/
theorem Follows.foldl_step (governs : rule.Governs run) (todo : List String)
    (follows : walk.Follows rule start before done (todo ++ behind))
    : ((List.range' (before.length + done.length) todo.length).foldl (Walk.step run)
        walk).Follows rule start before (done ++ todo) behind := by
  induction todo generalizing walk done with
  | nil => simpa using follows
  | cons line todo ih =>
      have next := ih (follows.step governs)
      rw [List.length_append, List.length_singleton, ← Nat.add_assoc, List.append_assoc,
        List.singleton_append] at next
      simpa only [List.length_cons, List.range'_succ, List.foldl_cons] using next

/-- A walk that starts has followed the rule over no line. -/
theorem follows_start (rule : LineRule) (lines : start.lines = before ++ behind)
    : ({ buffer := start } : Walk).Follows rule start before [] behind :=
  {
    lines := by simpa using lines
    dirty := by simp
    dot := rfl
    filename := rfl
    output := rfl
    deleted := rfl
    landing := rfl
  }

/-- A walk over a range of the buffer follows the rule over the lines of the range. -/
theorem along_follows {buffer : Buffer} {range : LineRange} (governs : rule.Governs run)
    (has : buffer.HasRange range) (filled : ¬ buffer.isEmpty = true)
    : (along run buffer range).Follows rule buffer (buffer.lines.take range.first)
        (buffer.slice range) (buffer.lines.drop (range.last + 1)) := by
  have walked :=
    (follows_start rule (buffer.lines_eq_slice has.ordered)).foldl_step governs (buffer.slice range)
  rw [has.length_take_first, has.length_slice filled] at walked
  exact walked

----------------------------------------------------------------------------------------
-- Ends of walks
----------------------------------------------------------------------------------------

/-- The end of a walk deletes what is marked and moves the current line to its landing place. -/
theorem finish_eq (walk : Walk)
    : walk.finish
      = match walk.landing? with
        | none => walk.buffer.deleteMarked walk.deleted.reverse
        | some index => (walk.buffer.deleteMarked walk.deleted.reverse).setDot index := by
  unfold finish landing? Buffer.deleteMarked
  rw [List.foldr_reverse]
  cases walk.visited <;> rfl

/-- A walk by a rule over a range of the buffer ends with the buffer that the rule tells. Where the
rule acts on no line, nothing is deleted either, and the current line stays.
-/
theorem along_finish {buffer : Buffer} {range : LineRange} (governs : rule.Governs run)
    (has : buffer.HasRange range) (filled : ¬ buffer.isEmpty = true)
    : (along run buffer range).finish = rule.bufferAfter buffer range := by
  have follows := along_follows governs has filled
  have first := has.length_take_first
  generalize along run buffer range = walk at follows
  have marks : walk.deleted.reverse = rule.marks range.first (buffer.slice range) := by
    rw [follows.deleted, List.reverse_reverse, first]
  have lines
      : (walk.buffer.deleteMarked walk.deleted.reverse).lines = rule.linesAfter buffer range := by
    rw [marks, ← first]
    exact Buffer.deleteMarked_lines rule _ follows.lines
  have dirty
      : (walk.buffer.deleteMarked walk.deleted.reverse).dirty
        = (buffer.dirty || rule.linesAfter buffer range != buffer.lines) := by
    rw [Buffer.deleteMarked_dirty, follows.dirty, marks, rule.linesAfter_bne has.ordered,
      rule.filterMap_leaves_bne range.first, Bool.or_assoc]
  have filename
      : (walk.buffer.deleteMarked walk.deleted.reverse).filename = buffer.filename := by
    rw [Buffer.deleteMarked_filename, follows.filename]
  rw [finish_eq, follows.landing, first]
  unfold LineRule.bufferAfter
  cases landing : rule.landing? range.first (buffer.slice range) with
  | none =>
      have unmarked : walk.deleted.reverse = [] := by
        rw [marks]
        exact rule.marks_eq_nil ((rule.landing?_eq_none_iff _ _).mp landing)
      refine Buffer.ext lines ?_ dirty filename
      rw [unmarked]
      exact follows.dot
  | some index => exact Buffer.ext lines (by rw [← lines]; rfl) dirty filename

/-- A walk by a rule over a range of the buffer is a change to what the rule tells. -/
theorem along_change {buffer : Buffer} {range : LineRange} (governs : rule.Governs run)
    (has : buffer.HasRange range) (filled : ¬ buffer.isEmpty = true)
    : (along run buffer range).change
      = {
        buffer := rule.bufferAfter buffer range
        output := rule.printed range.first (buffer.slice range)
      } := by
  have output := (along_follows governs has filled).output
  rw [has.length_take_first] at output
  rw [change, along_finish governs has filled, output]

/-- Visits that make no line a visited one replace none, by induction on the lines. -/
theorem foldl_step_replaced_eq_zero (indices : List Nat)
    (idle : walk.visited = none → walk.replaced = 0)
    (unvisited : (indices.foldl (step run) walk).visited = none)
    : (indices.foldl (step run) walk).replaced = 0 := by
  induction indices generalizing walk with
  | nil => exact idle unvisited
  | cons index rest ih =>
      refine ih ?_ unvisited
      simp only [step]
      cases (run index (walk.buffer.line index)).effect with
      | untouched => exact idle
      | kept | replaced _ | deleted => simp

/-- A substitution replaces no line of a range exactly if none of them matches. -/
theorem along_replaced_eq_zero_iff {buffer : Buffer} {range : LineRange}
    (substitution : Substitution) (has : buffer.HasRange range)
    (filled : ¬ buffer.isEmpty = true)
    : (along (LineCommand.substitute substitution).run buffer range).replaced = 0
      ↔ ∀ line ∈ buffer.slice range, substitution.pattern.isMatch line = false := by
  have landing := (along_follows (LineCommand.substitute substitution).governs has filled).landing
  have acts (line : String)
      : (LineCommand.substitute substitution).rule.actsOn line
        = substitution.pattern.isMatch line :=
    Bool.true_and _
  simp only [← acts]
  rw [← LineRule.landing?_eq_none_iff, ← landing]
  constructor
  · intro none
    rw [along_eq_of_replaced_eq_zero (onlyReplaces_substitute substitution) none]
    rfl
  · intro none
    exact foldl_step_replaced_eq_zero range.indices (fun _ => rfl) (Option.map_eq_none_iff.mp none)

end Walk

----------------------------------------------------------------------------------------
-- Commands by their rule
----------------------------------------------------------------------------------------

/-- The operation is a substitution, not under a global command, and none of the lines matches. -/
def Operation.Misses (operation : Operation) (lines : List String) : Prop :=
  ∃ substitution,
    operation = .each (.substitute substitution)
    ∧ ∀ line ∈ lines, substitution.pattern.isMatch line = false

variable {buffer : Buffer} {range : LineRange}

/-- A substitution that misses the lines of its range is refused. -/
theorem Buffer.runEach_of_missed (substitution : Substitution) (has : buffer.HasRange range)
    (filled : ¬ buffer.isEmpty = true)
    (missed : ∀ line ∈ buffer.slice range, substitution.pattern.isMatch line = false)
    : buffer.runEach range (.substitute substitution) = buffer.refuse .noMatch := by
  have none := (Walk.along_replaced_eq_zero_iff substitution has filled).mpr missed
  unfold runEach
  rw [if_neg filled]
  simp only [Walk.along_eq_of_replaced_eq_zero (Walk.onlyReplaces_substitute substitution) none]
  rfl

/-- A command on single lines that does not miss them all brings its walk to its end. -/
theorem Buffer.runEach_eq_change {command : LineCommand} (has : buffer.HasRange range)
    (filled : ¬ buffer.isEmpty = true)
    (hit : ¬ (Operation.each command).Misses (buffer.slice range))
    : buffer.runEach range command = (Walk.along command.run buffer range).change := by
  unfold runEach
  rw [if_neg filled]
  cases command with
  | print | number | delete => rfl
  | substitute substitution =>
      have replaced
          : ¬ (Walk.along (LineCommand.substitute substitution).run buffer range).replaced = 0 := by
        rw [Walk.along_replaced_eq_zero_iff substitution has filled]
        exact fun missed => hit ⟨substitution, rfl, missed⟩
      exact if_neg replaced

/-- A command on single lines that does not miss them all makes of them what its rule tells. -/
theorem Buffer.runEach_of_hit {command : LineCommand} (has : buffer.HasRange range)
    (filled : ¬ buffer.isEmpty = true)
    (hit : ¬ (Operation.each command).Misses (buffer.slice range))
    : buffer.runEach range command
      = {
        buffer := command.rule.bufferAfter buffer range
        output := command.rule.printed range.first (buffer.slice range)
      } :=
  (runEach_eq_change has filled hit).trans (Walk.along_change command.governs has filled)

/-- A global command makes of the lines of a range what its rule tells. -/
theorem Buffer.runGlobal_eq (global : GlobalCommand) (has : buffer.HasRange range)
    (filled : ¬ buffer.isEmpty = true)
    : buffer.runGlobal range global
      = {
        buffer := global.rule.bufferAfter buffer range
        output := global.rule.printed range.first (buffer.slice range)
      } := by
  rw [← Walk.along_change global.governs has filled]
  exact if_neg filled

/-- A command on single lines is carried out by its rule, unless it misses all lines. -/
theorem Command.run_of_lineRule {command : Command} {rule : LineRule}
    (has : buffer.HasRange command.range) (filled : ¬ buffer.isEmpty = true)
    (single : command.operation.lineRule? = some rule)
    (hit : ¬ command.operation.Misses (buffer.slice command.range)) (world : World)
    : (command.plan buffer).run world
      = ({
          buffer := rule.bufferAfter buffer command.range
          output := rule.printed command.range.first (buffer.slice command.range)
        }, world) := by
  unfold plan
  cases operation : command.operation with
  | each inner =>
      rw [operation] at single hit
      cases single
      simp only [Plan.run, Buffer.runEach_of_hit has filled hit]
  | global inner =>
      rw [operation] at single
      cases single
      simp only [Plan.run, Buffer.runGlobal_eq inner has filled]
  | input _ | move _ | read _ | write _ | quit => simp [operation, Operation.lineRule?] at single

/-- What deleting globally leaves of lines: those that the command does not select. -/
theorem GlobalCommand.filterMap_leaves_delete (pattern : Pattern) (matching : Bool)
    (lines : List String)
    : lines.filterMap (GlobalCommand.rule ⟨pattern, matching, .delete⟩).leaves
      = lines.filter fun line => pattern.isMatch line != matching := by
  have leaves
      : (GlobalCommand.rule ⟨pattern, matching, .delete⟩).leaves
        = Option.guard fun line => pattern.isMatch line != matching := by
    funext line
    unfold LineRule.leaves rule LineCommand.leaves
    by_cases selected : (pattern.isMatch line == matching) = true
    · simp [selected, Option.guard, bne]
    · simp [selected, Option.guard, bne]
  rw [leaves, List.filterMap_eq_filter]

/-- A command that acts on each line of a range by itself, under a global command or not, decides
every line from what it was before the command and from its index then. The lines, the output, the
current line and the mark of unsaved changes are those that the rule of the command tells; only a
substitution that matches none of the lines is refused, and changes nothing. So deleting the lines
that match and deleting those that do not leave complementary lines of the range.
-/
theorem Command.run_line_by_line {command : Command} {rule : LineRule} {buffer : Buffer}
    (has : buffer.HasRange command.range) (filled : ¬ buffer.isEmpty = true)
    (single : command.operation.lineRule? = some rule) (world : World)
    : (command.operation.Misses (buffer.slice command.range)
        → (command.plan buffer).run world = (buffer.refuse .noMatch, world))
      ∧ (¬ command.operation.Misses (buffer.slice command.range)
        → (command.plan buffer).run world
          = ({
              buffer := rule.bufferAfter buffer command.range
              output := rule.printed command.range.first (buffer.slice command.range)
            }, world))
      ∧ ∀ pattern matching,
          ((Command.plan ⟨command.range, .global ⟨pattern, matching, .delete⟩⟩ buffer).run
              world).1.buffer.lines
            = buffer.lines.take command.range.first
              ++ ((buffer.slice command.range).filter fun line =>
                pattern.isMatch line != matching)
              ++ buffer.lines.drop (command.range.last + 1) := by
  refine ⟨?_, fun hit => run_of_lineRule has filled single hit world, ?_⟩
  · rintro ⟨substitution, operation, missed⟩
    have refused := Buffer.runEach_of_missed substitution has filled missed
    simp only [plan, operation, Plan.run, refused]
  · intro pattern matching
    simp only [plan, Plan.run, Buffer.runGlobal_eq _ has filled, LineRule.bufferAfter,
      LineRule.linesAfter, GlobalCommand.filterMap_leaves_delete]

/-- Of three lines the first and the last are deleted because they match. The current line would
come to lie behind the one that is left, and stays on it.
-/
theorem Command.run_line_by_line_deleting
    : ∃ command : Command,
        (Buffer.ofLines ["ab", "c", "a"]).HasRange command.range
        ∧ command.operation.lineRule?.isSome
        ∧ ((command.plan (.ofLines ["ab", "c", "a"])).run ⟨⟨[]⟩, {}⟩).1
          = { buffer := { lines := ["c"], dot := 0, dirty := true }, output := "" } := by
  let pattern : Pattern := ⟨"a", ⟨#[.accept, .one ⟨[(97, 97)]⟩ 0], 1⟩⟩
  let global : GlobalCommand := ⟨pattern, true, .delete⟩
  let command : Command := ⟨⟨0, 2⟩, .global global⟩
  have has : (Buffer.ofLines ["ab", "c", "a"]).HasRange command.range := by
    constructor <;> decide
  have single : command.operation.lineRule? = some global.rule := rfl
  have hit : ¬ command.operation.Misses ((Buffer.ofLines ["ab", "c", "a"]).slice ⟨0, 2⟩) := by
    rintro ⟨substitution, operation, _⟩
    cases operation
  have ran := (run_line_by_line has (by decide) single ⟨⟨[]⟩, {}⟩).2.1 hit
  have after
      : global.rule.bufferAfter (.ofLines ["ab", "c", "a"]) ⟨0, 2⟩
        = { lines := ["c"], dot := 0, dirty := true } := by
    decide +kernel
  have printed
      : global.rule.printed 0 ((Buffer.ofLines ["ab", "c", "a"]).slice ⟨0, 2⟩) = "" := by
    decide +kernel
  refine ⟨command, has, rfl, ?_⟩
  rw [ran, after, printed]

end LineEditor
