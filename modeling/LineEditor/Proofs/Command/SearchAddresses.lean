import LineEditor.Command.Address
import LineEditor.Proofs.Buffer.Edits
import LineEditor.Proofs.Buffer.Searches
import LineEditor.Proofs.Text.Fields

/-! Search addresses. A search for a pattern finds the nearest line that matches on its side of the
start, or none; whatever it finds, its pattern is the last one from then on, and where there is no
pattern to search for the memory stays.
-/

namespace LineEditor

open Text (Field unescape)

----------------------------------------------------------------------------------------
-- Nearest lines
----------------------------------------------------------------------------------------

namespace Buffer

/-- The indices of the lines that match. -/
def matching (buffer : Buffer) (pattern : Pattern) : Set Nat :=
  buffer.accepted pattern.isMatch

/-- What a search with a mark comes to from a start. The start has to be a line of the buffer, where
an empty buffer has the index zero. A slash asks for the first match behind the start, a question
mark for the last one before it, and a search does not go round the ends of the buffer.
-/
inductive Finds (buffer : Buffer) (pattern : Pattern) : Char → Int → Except EditError Nat → Prop
  | outside {mark start} (outside : start < 0 ∨ max (buffer.size - 1 : Int) 0 < start)
    : Finds buffer pattern mark start (.error .badRange)
  | next {start index : Nat} (inside : start ≤ buffer.size - 1)
    (least : IsLeast {index | start < index ∧ index ∈ buffer.matching pattern} index)
    : Finds buffer pattern '/' start (.ok index)
  | noNext {start : Nat} (inside : start ≤ buffer.size - 1)
    (none : ∀ index, start < index → index ∉ buffer.matching pattern)
    : Finds buffer pattern '/' start (.error .noMatch)
  | previous {start index : Nat} (inside : start ≤ buffer.size - 1)
    (greatest : IsGreatest {index | index < start ∧ index ∈ buffer.matching pattern} index)
    : Finds buffer pattern '?' start (.ok index)
  | noPrevious {start : Nat} (inside : start ≤ buffer.size - 1)
    (none : ∀ index, index < start → index ∉ buffer.matching pattern)
    : Finds buffer pattern '?' start (.error .noMatch)

variable {buffer : Buffer} {pattern : Pattern} {mark : Char} {start : Int}
  {result : Except EditError Nat}

theorem findLine_of_outside {forward : Bool}
    (outside : start < 0 ∨ max (buffer.size - 1 : Int) 0 < start)
    : buffer.findLine forward pattern start = .error .badRange :=
  if_pos (by simpa [lastIndex] using outside)

theorem findLine_of_inside {forward : Bool} {start : Nat} (inside : start ≤ buffer.size - 1)
    : buffer.findLine forward pattern start
      = match
          if forward then buffer.searchForward pattern.isMatch start
          else buffer.searchBackward pattern.isMatch start with
        | some index => .ok index
        | none => .error .noMatch := by
  have admitted : ¬ ((start : Int) < 0 || (start : Int) > max buffer.lastIndex 0) = true := by
    simp only [Bool.or_eq_true, decide_eq_true_eq]
    unfold lastIndex
    omega
  rw [findLine, if_neg admitted]
  rfl

/-- A search finds what its pattern, its mark and its start determine. -/
theorem finds_findLine (search : mark ∈ ['/', '?'])
    : buffer.Finds pattern mark start (buffer.findLine (mark == '/') pattern start) := by
  by_cases outside : start < 0 ∨ max (buffer.size - 1 : Int) 0 < start
  · rw [findLine_of_outside outside]
    exact .outside outside
  · obtain ⟨start, rfl⟩ := Int.eq_ofNat_of_zero_le (Int.not_lt.mp (not_or.mp outside).1)
    have inside : start ≤ buffer.size - 1 := by omega
    simp only [List.mem_cons, List.not_mem_nil, or_false] at search
    rcases search with rfl | rfl
    · rw [findLine_of_inside inside]
      cases found : buffer.searchForward pattern.isMatch start with
      | some index => simpa [found] using .next inside (isLeast_of_searchForward found)
      | none =>
          simpa [found] using .noNext inside fun _ => not_accepted_of_searchForward found
    · rw [findLine_of_inside inside]
      cases found : buffer.searchBackward pattern.isMatch start with
      | some index =>
          simpa [found] using .previous inside (isGreatest_of_searchBackward inside found)
      | none =>
          simpa [found] using .noPrevious inside fun _ =>
            not_accepted_of_searchBackward inside found

/-- A search finds one thing only, because there is one nearest line or none. -/
theorem Finds.unique {other : Except EditError Nat}
    (finds : buffer.Finds pattern mark start result) (also : buffer.Finds pattern mark start other)
    : result = other := by
  cases finds with
  | outside outside =>
      cases also with
      | outside => rfl
      | next inside | noNext inside | previous inside | noPrevious inside => omega
  | next inside least =>
      cases also with
      | outside outside => omega
      | next _ also => rw [least.unique also]
      | noNext _ none => exact absurd least.1.2 (none _ least.1.1)
  | noNext inside none =>
      cases also with
      | outside outside => omega
      | next _ least => exact absurd least.1.2 (none _ least.1.1)
      | noNext => rfl
  | previous inside greatest =>
      cases also with
      | outside outside => omega
      | previous _ also => rw [greatest.unique also]
      | noPrevious _ none => exact absurd greatest.1.2 (none _ greatest.1.1)
  | noPrevious inside none =>
      cases also with
      | outside outside => omega
      | previous _ greatest => exact absurd greatest.1.2 (none _ greatest.1.1)
      | noPrevious => rfl

end Buffer

----------------------------------------------------------------------------------------
-- Patterns that are searched for
----------------------------------------------------------------------------------------

/-- Taking escapes away leaves something of every text but the empty one. -/
theorem Text.unescape_ne_nil {delimiter : Char} {text : List Char} (some : text ≠ [])
    : unescape delimiter text ≠ [] := by
  fun_induction unescape delimiter text with
  | case1 => exact absurd rfl some
  | case2 => exact some
  | case3 c next text _ ih => exact ih nofun
  | case4 => exact nofun

theorem patternBody_nil (mark : Char) : patternBody mark [] = [] := by
  unfold patternBody
  split <;> rfl

theorem patternBody_ne_nil {mark : Char} {body : List Char} (some : body ≠ [])
    : patternBody mark body ≠ [] := by
  unfold patternBody
  split
  · exact some
  · exact Text.unescape_ne_nil some

namespace Context

/-- The text behind the opening mark of a search asks for a pattern, and the rest stands behind its
closing mark. The pattern is written between the marks, or it is the last one where nothing is.
-/
inductive Asks (context : Context) (mark : Char) : List Char → Pattern → List Char → Prop
  | written {body rest pattern} (some : body ≠ []) (holds : Field.Holds mark body)
    (compiles
      : Pattern.compile context.ignoreCase (String.ofList (patternBody mark body)) = .ok pattern)
    : Asks context mark (body ++ mark :: rest) pattern rest
  | last {rest pattern} (remembered : context.memory.search = some pattern)
    : Asks context mark (mark :: rest) pattern rest

/-- A search address is read as the one thing that the search for its pattern finds from the start
in its place of a range. The rest of the text is left, and the pattern is the last one, whether a
line is found or not.
-/
def Locates (context : Context) (slot : Slot) (mark : Char) (text : List Char) (pattern : Pattern)
    (rest : List Char)
    : Prop :=
  ∃ result,
    (∀ other,
      context.buffer.Finds pattern mark (slot.origin context.buffer.dot) other ↔ other = result)
    ∧ context.readAddress slot (mark :: text)
      = (result.map fun index => (some (index : Int), rest), context.memory.keepSearch pattern)

variable {context : Context} {slot : Slot} {mark : Char} {text rest : List Char}
  {pattern : Pattern}

/-- A pattern that is asked for stands in a closed field. -/
theorem Asks.field (asks : context.Asks mark text pattern rest) (simple : mark ≠ '\\')
    : (Field.cut mark text).closed = true
      ∧ (Field.cut mark text).rest = rest
      ∧ context.pattern (patternBody mark (Field.cut mark text).body) = .ok pattern := by
  cases asks with
  | @written body rest _ some holds compiles =>
      have body : patternBody mark body ≠ [] := patternBody_ne_nil some
      simp [Field.cut_of_holds simple holds, Context.pattern, body, compiles]
  | last remembered =>
      simp [Field.cut_delimiter simple, Context.pattern, patternBody_nil, remembered]

/-- A closed field with a pattern in it asks for that pattern. -/
theorem asks_of_field (simple : mark ≠ '\\') (closed : (Field.cut mark text).closed = true)
    (found : context.pattern (patternBody mark (Field.cut mark text).body) = .ok pattern)
    : context.Asks mark text pattern (Field.cut mark text).rest := by
  obtain ⟨same, holds⟩ := Field.eq_append_of_closed simple closed
  generalize Field.cut mark text = field at same holds found ⊢
  subst same
  unfold Context.pattern at found
  by_cases empty : field.body = []
  · rw [empty, patternBody_nil] at found
    rw [empty]
    cases remembered : context.memory.search with
    | none => simp [remembered] at found
    | some last =>
        simp only [remembered, List.isEmpty_nil, if_true, Except.ok.injEq] at found
        exact .last (found ▸ remembered)
  · have written : (patternBody mark field.body).isEmpty = false :=
      List.isEmpty_eq_false_iff.mpr (patternBody_ne_nil empty)
    rw [written, if_neg Bool.false_ne_true] at found
    split at found
    next compiled compiles =>
      cases found
      exact .written empty holds compiles
    next => cases found

/-- A search that asks for a pattern comes to what it finds, and remembers the pattern. -/
theorem readSearch_of_asks (asks : context.Asks mark text pattern rest) (simple : mark ≠ '\\')
    : context.readSearch slot mark text
      = ((context.buffer.findLine (mark == '/') pattern
            (slot.origin context.buffer.dot)).map fun index => (some (index : Int), rest),
        context.memory.keepSearch pattern) := by
  obtain ⟨closed, rfl, found⟩ := asks.field simple
  simp only [readSearch, closed, Bool.not_true, Bool.false_eq_true, if_false, recallPattern, found]
  cases context.buffer.findLine (mark == '/') pattern (slot.origin context.buffer.dot) <;> rfl

/-- A search that asks for no pattern fails and remembers nothing. -/
theorem readSearch_of_not_asks (simple : mark ≠ '\\')
    (none : ∀ pattern rest, ¬ context.Asks mark text pattern rest)
    : ∃ error, context.readSearch slot mark text = (.error error, context.memory) := by
  cases closed : (Field.cut mark text).closed with
  | false => exact ⟨.badPattern .unterminated, by simp [readSearch, closed]⟩
  | true =>
      cases found : context.pattern (patternBody mark (Field.cut mark text).body) with
      | ok pattern => exact absurd (asks_of_field simple closed found) (none _ _)
      | error error => exact ⟨error, by simp [readSearch, recallPattern, closed, found]⟩

theorem ne_backslash_of_mark (search : mark ∈ ['/', '?']) : mark ≠ '\\' := by
  rintro rfl
  simp at search

/-- A search address has a mark of its own. -/
theorem readAddress_of_mark (search : mark ∈ ['/', '?'])
    : context.readAddress slot (mark :: text) = context.readSearch slot mark text := by
  simp only [List.mem_cons, List.not_mem_nil, or_false] at search
  rcases search with rfl | rfl <;> rfl

/-- A search address that asks for a pattern locates what its search finds. -/
theorem Asks.locates (search : mark ∈ ['/', '?']) (asks : context.Asks mark text pattern rest)
    : context.Locates slot mark text pattern rest := by
  have finds
      : context.buffer.Finds pattern mark (slot.origin context.buffer.dot)
          (context.buffer.findLine (mark == '/') pattern (slot.origin context.buffer.dot)) :=
    Buffer.finds_findLine search
  refine ⟨_, fun other => ⟨fun also => also.unique finds, ?_⟩, ?_⟩
  · rintro rfl
    exact finds
  · rw [readAddress_of_mark search, readSearch_of_asks asks (ne_backslash_of_mark search)]

/-- From a valid current line a search always starts inside the buffer. -/
theorem Locates.ne_badRange (valid : context.buffer.DotValid)
    (locates : context.Locates .first mark text pattern rest)
    : (context.readAddress .first (mark :: text)).1 ≠ .error .badRange := by
  obtain ⟨result, determined, read⟩ := locates
  rw [read]
  have finds := (determined result).mpr rfl
  unfold Buffer.DotValid at valid
  cases finds with
  | outside outside =>
      simp only [Slot.origin] at outside
      omega
  | next | previous | noNext | noPrevious => exact nofun

/-- A search address whose pattern resolves is read as the nearest line that matches on its side of
the start, and fails where there is none or where the start lies outside the buffer, which the
current line never does. In each of these cases the pattern is the last one, and a search without
a pattern right behind searches for it. A search that asks for no pattern fails and leaves the
memory. A search backward is the mirror image of one forward.
-/
theorem readAddress_finds_nearest (valid : context.buffer.DotValid) (search : mark ∈ ['/', '?'])
    : (∀ slot text pattern rest,
        context.Asks mark text pattern rest
        → context.Locates slot mark text pattern rest
          ∧ (context.readAddress .first (mark :: text)).1 ≠ .error .badRange
          ∧ ∀ next ∈ ['/', '?'],
              ∀ slot rest,
                (context.withMemory (context.memory.keepSearch pattern)).Locates slot next
                  (next :: rest) pattern rest)
      ∧ (∀ slot text,
          (∀ pattern rest, ¬ context.Asks mark text pattern rest)
          → ∃ error, context.readAddress slot (mark :: text) = (.error error, context.memory))
      ∧ ∀ (pattern : Pattern) start index,
          start ≤ context.buffer.size - 1
          → (context.buffer.searchBackward pattern.isMatch start = some index
            ↔ context.buffer.mirrored.searchForward pattern.isMatch
                (context.buffer.size - 1 - start)
              = some (context.buffer.size - 1 - index)) := by
  refine ⟨?_, ?_, fun pattern start index => Buffer.searchBackward_eq_some_iff_mirrored⟩
  · intro slot text pattern rest asks
    have first : context.Locates .first mark text pattern rest := asks.locates search
    refine ⟨asks.locates search, first.ne_badRange valid, ?_⟩
    intro next again slot behind
    have remembered
        : (context.withMemory (context.memory.keepSearch pattern)).Asks next (next :: behind)
            pattern behind :=
      .last rfl
    exact remembered.locates again
  · intro slot text none
    rw [readAddress_of_mark search]
    exact readSearch_of_not_asks (ne_backslash_of_mark search) none

/-- From the second of four lines the next match is the last line and not the line itself. A search
from behind the buffer fails, but its pattern is the one that the next search without a pattern
goes for, backward and over the current line.
-/
theorem readAddress_finds_nearest_again
    : ∃ (context : Context) (pattern : Pattern),
        context.buffer.DotValid
        ∧ '/' ∈ ['/', '?']
        ∧ context.Asks '/' "a/p".toList pattern ['p']
        ∧ (context.readAddress .first "/a/p".toList).1 = .ok (some 3, ['p'])
        ∧ context.readAddress (.second 9) "/a/p".toList
          = (.error .badRange, context.memory.keepSearch pattern)
        ∧ ((context.withMemory (context.memory.keepSearch pattern)).readAddress (.second 3)
            "??p".toList).1
          = .ok (some 1, ['p']) := by
  let pattern : Pattern := ⟨"a", ⟨#[.accept, .one ⟨[(97, 97)]⟩ 0], 1⟩⟩
  let buffer : Buffer := { lines := ["a", "a", "x", "a"], dot := 1 }
  let context : Context := { buffer := buffer }
  have asks : context.Asks '/' "a/p".toList pattern ['p'] := by
    show context.Asks '/' (['a'] ++ '/' :: ['p']) pattern ['p']
    exact .written nofun rfl (by decide +kernel)
  have last : 3 ∈ buffer.matching pattern := ⟨"a", rfl, by decide +kernel⟩
  have second : 1 ∈ buffer.matching pattern := ⟨"a", rfl, by decide +kernel⟩
  have third : 2 ∉ buffer.matching pattern := by
    rintro ⟨line, ⟨rfl⟩, matching⟩
    revert matching
    decide +kernel
  have next : buffer.Finds pattern '/' (1 : Nat) (.ok 3) := by
    refine .next (by decide) ⟨⟨by decide, last⟩, ?_⟩
    rintro index ⟨behind, member⟩
    by_contra nearer
    obtain rfl : index = 2 := by omega
    exact third member
  have previous : buffer.Finds pattern '?' (3 : Nat) (.ok 1) := by
    refine .previous (by decide) ⟨⟨by decide, second⟩, ?_⟩
    rintro index ⟨before, member⟩
    by_contra nearer
    obtain rfl : index = 2 := by omega
    exact third member
  have valid : context.buffer.DotValid := by
    unfold Buffer.DotValid
    decide
  have facts := (readAddress_finds_nearest valid (by decide : '/' ∈ ['/', '?'])).1
  refine ⟨context, pattern, valid, by decide, asks, ?_, ?_, ?_⟩
  · obtain ⟨⟨result, determined, read⟩, _⟩ := facts .first _ _ _ asks
    obtain rfl := (determined _).mp next
    exact congrArg Prod.fst read
  · obtain ⟨⟨result, determined, read⟩, _⟩ := facts (.second 9) _ _ _ asks
    obtain rfl := (determined _).mp (.outside (by decide))
    exact read
  · obtain ⟨_, _, again⟩ := facts .first _ _ _ asks
    obtain ⟨result, determined, read⟩ := again '?' (by decide) (.second 3) ['p']
    obtain rfl := (determined _).mp previous
    exact congrArg Prod.fst read

end Context

end LineEditor
