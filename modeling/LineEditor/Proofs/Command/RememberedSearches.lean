import LineEditor.Command.Basic
import LineEditor.Proofs.Command.RefusedOperations

/-! What reading leaves of a context. It leaves the buffer, at any depth of nested commands. A line
that fails at an address, or at the check of its range, leaves the last substitution as well; the
search pattern stays, or is one that an address of the line has searched for.
-/

namespace LineEditor

open Text (Field)

namespace Context

/-- The pattern of a search behind its delimiter: the one that its body compiles to, or the last
one. There is none for a search without an end or with a body that means no pattern.
-/
def fieldPattern? (context : Context) (delimiter : Char) (text : List Char) : Option Pattern :=
  let field := Field.cut delimiter text
  if field.closed then (context.pattern (patternBody delimiter field.body)).toOption else none

/-- The pattern of the search address that a text starts with. -/
def searchPattern? (context : Context) : List Char → Option Pattern
  | '/' :: text => context.fieldPattern? '/' text
  | '?' :: text => context.fieldPattern? '?' text
  | _ => none

/-- The pattern is that of a search address of a command line: of the first or the second one in
front of the command, or of the destination of a move.
-/
inductive Searches (context : Context) (line : List Char) : Pattern → Prop
  | first {pattern} (found : context.searchPattern? line = some pattern)
    : Searches context line pattern
  | second {pattern address text memory}
    (before : context.readAddress .first line = (.ok (address, ',' :: text), memory))
    (found : (context.withMemory memory).searchPattern? text = some pattern)
    : Searches context line pattern
  | destination {pattern addresses memory inner text}
    (before : context.readRange line = (.ok addresses, memory))
    (moves : (context.withMemory memory).innermost addresses.rest = some (inner, 'm' :: text))
    (found : inner.searchPattern? text = some pattern)
    : Searches context line pattern

/-- The command line fails at an address or at the check of its range. The addresses are those in
front of the command and the destination of a move, also of one that is nested.
-/
inductive FailsAtAddress (context : Context) (line : List Char) : EditError → Prop
  | address {error memory} (lost : context.readRange line = (.error error, memory))
    : FailsAtAddress context line error
  | check {error addresses memory} (before : context.readRange line = (.ok addresses, memory))
    (bad : context.commandRange addresses = .error error)
    : FailsAtAddress context line error
  | destination {error addresses memory range inner text left}
    (before : context.readRange line = (.ok addresses, memory))
    (found : context.commandRange addresses = .ok range)
    (moves : (context.withMemory memory).innermost addresses.rest = some (inner, 'm' :: text))
    (lost : inner.readAddress .first text = (.error error, left))
    : FailsAtAddress context line error

/-- The second context is what one reading leaves of the first one: of a whole command line, or of
the parts that it is made of.
-/
inductive ReadStep (context : Context) : Context → Prop
  | command (line : String) : ReadStep context (context.withMemory (context.readCommand line).2)
  | operation (text : List Char)
    : ReadStep context (context.withMemory (context.readOperation text).2)
  | range (text : List Char) : ReadStep context (context.withMemory (context.readRange text).2)
  | address (slot : Slot) (text : List Char)
    : ReadStep context (context.withMemory (context.readAddress slot text).2)
  | substitution {text substitution memory}
    (read : context.readSubstitution text = .ok (substitution, memory))
    : ReadStep context (context.withMemory memory)
  | refused {text error} (unread : context.readSubstitution text = .error error)
    : ReadStep context context

/-- A memory that is left of a context: the last substitution is the same, and the search pattern
is the same or one that satisfies a condition.
-/
structure Keeps (context : Context) (searched : Pattern → Prop) (left : Memory) : Prop where
  same : left.SameSubstitution context.memory
  search
    : left.search = context.memory.search
      ∨ ∃ pattern, left.search = some pattern ∧ searched pattern

variable {context inner : Context} {slot : Slot} {text rest : List Char} {left : Memory}
  {error : EditError} {searched wider : Pattern → Prop}

theorem Keeps.refl (context : Context) (searched : Pattern → Prop)
    : context.Keeps searched context.memory :=
  ⟨.refl _, Or.inl rfl⟩

theorem Keeps.mono (keeps : context.Keeps searched left)
    (imp : ∀ pattern, searched pattern → wider pattern)
    : context.Keeps wider left := by
  refine ⟨keeps.same, keeps.search.imp_right ?_⟩
  rintro ⟨pattern, search, found⟩
  exact ⟨pattern, search, imp pattern found⟩

/-- What is kept in two steps is kept in both together. -/
theorem Keeps.trans {memory : Memory} (first : context.Keeps searched memory)
    (second : (context.withMemory memory).Keeps searched left)
    : context.Keeps searched left := by
  refine ⟨second.same.trans first.same, ?_⟩
  rcases second.search with same | found
  · rw [show left.search = memory.search from same]
    exact first.search
  · exact Or.inr found

----------------------------------------------------------------------------------------
-- Addresses
----------------------------------------------------------------------------------------

theorem recallPattern_memory (context : Context) (body : List Char)
    : (context.recallPattern body).2
      = ((context.pattern body).toOption.map context.memory.keepSearch).getD context.memory := by
  unfold recallPattern
  cases context.pattern body <;> rfl

theorem readSearch_memory (context : Context) (slot : Slot) (delimiter : Char) (text : List Char)
    : (context.readSearch slot delimiter text).2
      = ((context.fieldPattern? delimiter text).map context.memory.keepSearch).getD
          context.memory := by
  unfold readSearch fieldPattern?
  cases closed : (Field.cut delimiter text).closed with
  | false => simp [closed]
  | true =>
      have recalled :=
        context.recallPattern_memory (patternBody delimiter (Field.cut delimiter text).body)
      simp only [closed, Bool.not_true, Bool.false_eq_true, if_false, if_true, ← recalled]
      split
      · next found => rw [found]
      · next found =>
          rw [found]
          split <;> rfl

/-- An address remembers the pattern that it searches for, whether the search finds a line or not,
and nothing else.
-/
theorem readAddress_memory (context : Context) (slot : Slot) (text : List Char)
    : (context.readAddress slot text).2
      = ((context.searchPattern? text).map context.memory.keepSearch).getD context.memory := by
  unfold readAddress searchPattern?
  split
  · exact context.readSearch_memory slot '/' _
  · exact context.readSearch_memory slot '?' _
  · simp

theorem keeps_readAddress (context : Context) (slot : Slot) (text : List Char)
    : context.Keeps (context.searchPattern? text = some ·) (context.readAddress slot text).2 := by
  rw [readAddress_memory]
  cases found : context.searchPattern? text with
  | none => exact .refl _ _
  | some pattern => exact ⟨⟨rfl, rfl⟩, Or.inr ⟨pattern, rfl, rfl⟩⟩

/-- Reading a range remembers at most the patterns of its two addresses. -/
theorem keeps_readRange (context : Context) (text : List Char)
    : context.Keeps (context.Searches text) (context.readRange text).2 := by
  have first := context.keeps_readAddress .first text
  have mono := first.mono fun _ => Searches.first
  unfold readRange
  rcases found : context.readAddress .first text with ⟨_ | ⟨address, rest⟩, memory⟩
  · rwa [found] at mono
  · rw [found] at mono
    dsimp only
    split
    · next rest =>
        refine mono.trans ?_
        have second :=
          (context.withMemory memory).keeps_readAddress (.second (address.getD context.buffer.dot))
            rest
        have wider := second.mono fun _ => Searches.second found
        unfold readSecond
        split <;> simp_all
    · exact mono

----------------------------------------------------------------------------------------
-- Nested commands
----------------------------------------------------------------------------------------

/-- The innermost command is read in a context with the same buffer, the same rule for patterns and
the same last substitution. By induction on the global commands.
-/
theorem innermost_context (found : context.innermost text = some (inner, rest))
    : inner.buffer = context.buffer
      ∧ inner.ignoreCase = context.ignoreCase
      ∧ inner.memory.SameSubstitution context.memory := by
  induction context, text using readOperation.induct with
  | case1 context =>
      rw [innermost] at found
      cases found
      exact ⟨rfl, rfl, .refl _⟩
  | case2 context letter text global error unread =>
      rw [innermost_of_unselected global unread] at found
      cases found
  | case3 context letter text global pattern command read _ ih =>
      rw [innermost_of_selected global read] at found
      obtain ⟨buffer, ignoreCase, same⟩ := ih found
      exact ⟨buffer, ignoreCase, same.trans ⟨rfl, rfl⟩⟩
  | case4 context letter text simple =>
      rw [innermost_of_simple simple] at found
      cases found
      exact ⟨rfl, rfl, .refl _⟩

/-- A move whose destination cannot be read fails, and so do the global commands around it, which
put the search pattern back. By induction on the global commands.
-/
theorem readOperation_of_lost (moves : context.innermost text = some (inner, 'm' :: rest))
    (lost : inner.readAddress .first rest = (.error error, left))
    : (context.readOperation text).1 = .error error
      ∧ context.Keeps (inner.searchPattern? rest = some ·) (context.readOperation text).2 := by
  induction context, text using readOperation.induct with
  | case1 context =>
      rw [innermost] at moves
      cases moves
  | case2 context letter text global error unread =>
      rw [innermost_of_unselected global unread] at moves
      cases moves
  | case3 context letter text global pattern command read _ ih =>
      rw [innermost_of_selected global read] at moves
      obtain ⟨failed, same, _⟩ := ih moves
      rw [readOperation_of_selected global read]
      generalize (context.withMemory (context.memory.keepSearch pattern)).readOperation command
        = result at failed same
      obtain ⟨result, memory⟩ := result
      cases failed
      exact ⟨rfl, ⟨same.replacement, same.options⟩, Or.inl rfl⟩
  | case4 context letter text simple =>
      rw [innermost_of_simple simple] at moves
      cases moves
      have keeps := inner.keeps_readAddress .first rest
      rw [readOperation_of_simple simple]
      simp only [readSimple, readMove, lost] at keeps ⊢
      exact ⟨trivial, keeps⟩

----------------------------------------------------------------------------------------
-- Command lines
----------------------------------------------------------------------------------------

/-- A command line that fails at an address or at its range remembers at most the patterns of its
own search addresses.
-/
theorem FailsAtAddress.keeps {line : String} (fails : context.FailsAtAddress line.toList error)
    : (context.readCommand line).1 = .error error
      ∧ context.Keeps (context.Searches line.toList) (context.readCommand line).2 := by
  have front := context.keeps_readRange line.toList
  unfold readCommand
  cases fails with
  | address lost =>
      rw [lost] at front ⊢
      exact ⟨rfl, front⟩
  | check before bad =>
      rw [before] at front ⊢
      simp only [bad]
      exact ⟨trivial, front⟩
  | @destination addresses memory range inner text left before found moves lost =>
      obtain ⟨failed, keeps⟩ := readOperation_of_lost moves lost
      have whole := keeps.mono fun _ => Searches.destination before moves
      rw [before] at front ⊢
      simp only [found]
      generalize (context.withMemory memory).readOperation addresses.rest = result
        at failed whole ⊢
      obtain ⟨result, after⟩ := result
      cases failed
      exact ⟨rfl, front.trans whole⟩

end Context

end LineEditor
