import Mathlib.Control.Monad.Basic
import LineEditor.Command.Operation

/-! What operations that are refused leave in the memory. A substitution or a global command that
is refused leaves the search pattern as it was. It leaves the last replacement and its options as
well, unless a substitution was accepted deep inside it, under at least two global commands.
-/

namespace LineEditor

open Text (Field)

/-- The memories have the same last replacement with the same options. -/
structure Memory.SameSubstitution (left right : Memory) : Prop where
  replacement : left.replacement = right.replacement
  options : left.options = right.options

namespace Memory.SameSubstitution

variable {left middle right : Memory}

theorem refl (memory : Memory) : memory.SameSubstitution memory :=
  ⟨rfl, rfl⟩

theorem symm (same : left.SameSubstitution right) : right.SameSubstitution left :=
  ⟨same.replacement.symm, same.options.symm⟩

theorem trans (first : left.SameSubstitution middle) (second : middle.SameSubstitution right)
    : left.SameSubstitution right :=
  ⟨first.replacement.trans second.replacement, first.options.trans second.options⟩

/-- With the same search pattern the memories are the same. -/
theorem eq_iff (search : left.search = right.search)
    : left = right ↔ left.SameSubstitution right := by
  constructor
  · rintro rfl
    exact refl left
  · intro same
    obtain ⟨replacement, options⟩ := same
    cases left
    cases right
    simp_all

end Memory.SameSubstitution

----------------------------------------------------------------------------------------
-- Refused commands
----------------------------------------------------------------------------------------

namespace GlobalCommand

/-- Enclosing a command leaves the last substitution as the command left it, also where the
command is refused.
-/
theorem enclose_sameSubstitution (letter : Char) (pattern : Pattern) (text : List Char)
    (previous : Option Pattern) (inner : Recalled (Operation × List Char))
    : (enclose letter pattern text previous inner).2.SameSubstitution inner.2 := by
  unfold enclose
  split
  · exact .refl _
  · exact ⟨rfl, rfl⟩
  · exact ⟨rfl, rfl⟩

/-- Enclosing a command either accepts it or puts the search pattern back. -/
theorem enclose_search {letter : Char} {pattern : Pattern} {text : List Char}
    {previous : Option Pattern} {inner : Recalled (Operation × List Char)} {error : EditError}
    {left : Memory}
    (refused : enclose letter pattern text previous inner = (.error error, left))
    : left.search = previous := by
  unfold enclose at refused
  split at refused
  · cases refused
  · cases refused
    rfl
  · cases refused
    rfl

end GlobalCommand

namespace Context

variable {context : Context} {letter : Char} {text : List Char}

----------------------------------------------------------------------------------------
-- Operations with one letter
----------------------------------------------------------------------------------------

/-- Recalling a pattern leaves the last substitution. -/
theorem recallPattern_sameSubstitution (context : Context) (body : List Char)
    : (context.recallPattern body).2.SameSubstitution context.memory := by
  unfold recallPattern
  cases context.pattern body with
  | ok pattern => exact ⟨rfl, rfl⟩
  | error error => exact .refl _

/-- A search leaves the last substitution, because all it remembers is a pattern. -/
theorem readSearch_sameSubstitution (context : Context) (slot : Slot) (delimiter : Char)
    (text : List Char)
    : (context.readSearch slot delimiter text).2.SameSubstitution context.memory := by
  have recalled :=
    context.recallPattern_sameSubstitution (patternBody delimiter (Field.cut delimiter text).body)
  unfold readSearch
  dsimp only
  split
  · exact .refl _
  · split
    next found => simpa only [found] using recalled
    next found =>
      rw [found] at recalled
      split
      · exact recalled
      · exact recalled

/-- Reading the destination of a move leaves the last substitution. -/
theorem readMove_sameSubstitution (context : Context) (text : List Char)
    : (context.readMove text).2.SameSubstitution context.memory := by
  have address : (context.readAddress .first text).2.SameSubstitution context.memory := by
    unfold readAddress
    split
    · exact readSearch_sameSubstitution _ _ _ _
    · exact readSearch_sameSubstitution _ _ _ _
    · exact .refl _
  unfold readMove
  split
  next found => simpa only [found] using address
  next found => simpa only [found] using address
  next found => simpa only [found] using address

/-- Every letter but that of a substitution leaves the last one. Only a move remembers anything
at all, and that is the pattern of its destination.
-/
theorem readSimple_sameSubstitution (other : letter ≠ 's')
    : (context.readSimple letter text).2.SameSubstitution context.memory := by
  unfold readSimple
  dsimp only
  split
  -- The letters that may be refused are `q`, `r` and `w`; then come `s` and `m`.
  case h_8 => split <;> exact .refl _
  case h_9 =>
    split
    · exact .refl _
    · split <;> exact .refl _
  case h_10 => split <;> exact .refl _
  case h_11 => exact absurd rfl other
  case h_12 => exact readMove_sameSubstitution _ _
  all_goals exact .refl _

----------------------------------------------------------------------------------------
-- Innermost commands
----------------------------------------------------------------------------------------

/-- The command inside all the global commands that a text starts with, and the context that it is
read in. There is none where one of the global commands has no pattern or no command.
-/
def innermost (context : Context) (text : List Char) : Option (Context × List Char) :=
  match text with
  | [] => some (context, [])
  | letter :: text =>
      if letter = 'g' ∨ letter = 'v' then
        match h : context.readSelector letter text with
        | .error _ => none
        | .ok (pattern, inner) =>
            have : inner.length < text.length := readSelector_length_lt h
            (context.withMemory (context.memory.keepSearch pattern)).innermost inner
      else some (context, letter :: text)
termination_by text.length

/-- The innermost command of a text is a substitution that is accepted, and this is the memory that
reading it leaves.
-/
def Substitutes (context : Context) (text : List Char) (kept : Memory) : Prop :=
  ∃ inner arguments substitution,
    context.innermost text = some (inner, 's' :: arguments)
    ∧ inner.readSubstitution arguments = .ok (substitution, kept)

/-- A letter that starts no global command is the innermost one. -/
theorem innermost_of_simple (simple : ¬ (letter = 'g' ∨ letter = 'v'))
    : context.innermost (letter :: text) = some (context, letter :: text) := by
  rw [innermost, if_neg simple]

/-- A global command without a pattern or without a command has none inside. -/
theorem innermost_of_unselected {error : EditError} (global : letter = 'g' ∨ letter = 'v')
    (unread : context.readSelector letter text = .error error)
    : context.innermost (letter :: text) = none := by
  rw [innermost, if_pos global]
  split
  · rfl
  · simp_all

/-- The innermost command of a global one is that of its inner command. -/
theorem innermost_of_selected {pattern : Pattern} {inner : List Char}
    (global : letter = 'g' ∨ letter = 'v')
    (read : context.readSelector letter text = .ok (pattern, inner))
    : context.innermost (letter :: text)
      = (context.withMemory (context.memory.keepSearch pattern)).innermost inner := by
  rw [innermost, if_pos global]
  split
  · simp_all
  · simp_all

----------------------------------------------------------------------------------------
-- Memories after reading
----------------------------------------------------------------------------------------

/-- What the innermost command leaves as the last substitution stays the last one, whether the
commands around it are accepted or refused. By induction on the global commands.
-/
theorem Substitutes.sameSubstitution {kept : Memory} (inside : context.Substitutes text kept)
    : (context.readOperation text).2.SameSubstitution kept := by
  obtain ⟨inner, arguments, substitution, found, accepted⟩ := inside
  induction context, text using readOperation.induct with
  | case1 context =>
      rw [innermost] at found
      cases found
  | case2 context letter text global error unread =>
      rw [innermost_of_unselected global unread] at found
      cases found
  | case3 context letter text global pattern command read _ ih =>
      rw [innermost_of_selected global read] at found
      rw [readOperation_of_selected global read]
      exact (GlobalCommand.enclose_sameSubstitution _ _ _ _ _).trans (ih found)
  | case4 context letter text simple =>
      rw [innermost_of_simple simple] at found
      cases found
      rw [readOperation_of_simple simple]
      simp only [readSimple, accepted]
      exact .refl kept

/-- Where no substitution is accepted inside, the last one stays. By induction on the global
commands: the pattern of each is remembered for the commands inside it, and nothing else.
-/
theorem readOperation_sameSubstitution (none : ∀ kept, ¬ context.Substitutes text kept)
    : (context.readOperation text).2.SameSubstitution context.memory := by
  induction context, text using readOperation.induct with
  | case1 context =>
      rw [readOperation]
      exact .refl _
  | case2 context letter text global error unread =>
      rw [readOperation_of_unselected global unread]
      exact .refl _
  | case3 context letter text global pattern command read _ ih =>
      have nested
          : ∀ kept,
              ¬ (context.withMemory (context.memory.keepSearch pattern)).Substitutes command
                kept := by
        intro kept
        simpa only [Substitutes, innermost_of_selected global read] using none kept
      rw [readOperation_of_selected global read]
      exact (GlobalCommand.enclose_sameSubstitution _ _ _ _ _).trans
        ((ih nested).trans ⟨rfl, rfl⟩)
  | case4 context letter text simple =>
      rw [readOperation_of_simple simple]
      by_cases substitutes : letter = 's'
      · subst substitutes
        cases read : context.readSubstitution text with
        | error error =>
            simp only [readSimple, read]
            exact .refl _
        | ok accepted =>
            exact absurd ⟨context, text, accepted.1, innermost_of_simple simple, read⟩
              (none accepted.2)
      · exact readSimple_sameSubstitution substitutes

/-- A substitution that is refused, and a global command that is refused, leave the search
pattern: the first remembers nothing, and the second puts the pattern back.
-/
theorem search_of_refused {error : EditError} {left : Memory}
    (starts : letter = 's' ∨ letter = 'g' ∨ letter = 'v')
    (refused : context.readOperation (letter :: text) = (.error error, left))
    : left.search = context.memory.search := by
  rcases starts with rfl | global
  · rw [readOperation_of_simple (by decide)] at refused
    cases read : context.readSubstitution text with
    | error error =>
        simp only [readSimple, read] at refused
        cases refused
        rfl
    | ok accepted => simp [readSimple, read] at refused
  · cases read : context.readSelector letter text with
    | error error =>
        rw [readOperation_of_unselected global read] at refused
        cases refused
        rfl
    | ok selected =>
        rw [readOperation_of_selected global read] at refused
        exact GlobalCommand.enclose_search refused

/-- A substitution or a global command that is refused leaves the search pattern. It leaves the
whole memory exactly if no substitution accepted inside it has put another replacement, or other
options, in the place of the last ones.
-/
theorem memory_of_refused {error : EditError} {left : Memory}
    (starts : letter = 's' ∨ letter = 'g' ∨ letter = 'v')
    (refused : context.readOperation (letter :: text) = (.error error, left))
    : left.search = context.memory.search
      ∧ (left = context.memory
        ↔ ∀ kept,
          context.Substitutes (letter :: text) kept
          → kept.replacement = context.memory.replacement
            ∧ kept.options = context.memory.options) := by
  have search := search_of_refused starts refused
  refine ⟨search, ?_⟩
  rw [Memory.SameSubstitution.eq_iff search]
  constructor
  · intro same kept inside
    have after := inside.sameSubstitution
    rw [refused] at after
    have unchanged := after.symm.trans same
    exact ⟨unchanged.replacement, unchanged.options⟩
  · intro unchanged
    by_cases inside : ∃ kept, context.Substitutes (letter :: text) kept
    · obtain ⟨kept, inside⟩ := inside
      have after := inside.sameSubstitution
      rw [refused] at after
      obtain ⟨replacement, options⟩ := unchanged kept inside
      exact after.trans ⟨replacement, options⟩
    · have after := readOperation_sameSubstitution (not_exists.mp inside)
      rwa [refused] at after

/-- A global command inside another one is refused for acting on more than single lines. Inside
both there is no substitution, so that the memory stays as it was.
-/
theorem memory_of_refused_deleting
    : ∃ error left,
        ({ memory := { replacement := some "b" } } : Context).readOperation
            ('g' :: "/x/g/y/d".toList)
          = (.error error, left)
        ∧ left = { replacement := some "b" } := by
  have refused
      : ({ memory := { replacement := some "b" } } : Context).readOperation
          ('g' :: "/x/g/y/d".toList)
        = (.error (.unrecognized (.notPerLine 'g' 'g')), { replacement := some "b" }) := by
    decide +kernel
  have inside
      : (({ memory := { replacement := some "b" } } : Context).innermost
          ('g' :: "/x/g/y/d".toList)).map Prod.snd
        = some ['d'] := by
    decide +kernel
  refine ⟨_, _, refused, (memory_of_refused (Or.inr (Or.inl rfl)) refused).2.mpr ?_⟩
  rintro kept ⟨inner, arguments, substitution, found, accepted⟩
  rw [found] at inside
  cases inside

/-- With a substitution inside both the outer command is refused as well, but its replacement is
remembered.
-/
theorem memory_of_refused_substituting
    : ({} : Context).readOperation "g/x/g/y/s/a/b/".toList
        = (.error (.unrecognized (.notPerLine 'g' 'g')),
          { replacement := some "b", options := some "1p" })
      ∧ ({ replacement := some "b", options := some "1p" } : Memory)
        ≠ ({} : Context).memory := by
  decide +kernel

end Context

end LineEditor
