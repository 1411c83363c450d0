import LineEditor.Proofs.Command.RepeatedSubstitutions
import LineEditor.Proofs.Command.SearchAddresses

/-! What an accepted operation uses is what is remembered. A substitution is the last one from then
on, also one for selected lines, and any other command for selected lines leaves the pattern that
selects them as the last one. A pattern that is left out is the last one.
-/

namespace LineEditor

open Text (Field)

----------------------------------------------------------------------------------------
-- Patterns of operations
----------------------------------------------------------------------------------------

namespace Operation

/-- The pattern that an operation itself works with. -/
def pattern? : Operation → Option Pattern
  | .each (.substitute substitution) => some substitution.pattern
  | .global command => some command.pattern
  | _ => none

/-- The operation works with no pattern and with no address. -/
def IsPlain : Operation → Prop
  | .each (.substitute _) | .global .. | .move _ => False
  | _ => True

end Operation

/-- The arguments of a substitution or of a global command leave the pattern out: there are none, or
nothing stands behind the first delimiter.
-/
def OmitsPattern : List Char → Prop
  | [] => True
  | delimiter :: text => (Field.cut delimiter text).body = []

/-- The text of the command inside a global one, which stands behind its pattern. -/
def innerText : List Char → List Char
  | _ :: delimiter :: text => (Field.cut delimiter text).rest
  | _ => []

namespace Context

variable {context : Context} {letter : Char} {text arguments inner rest : List Char}
  {pattern : Pattern} {substitution : Substitution} {operation : Operation} {left memory : Memory}

/-- No text means the last pattern. -/
theorem pattern_nil_eq_ok_iff
    : context.pattern [] = .ok pattern ↔ context.memory.search = some pattern := by
  unfold Context.pattern
  cases context.memory.search <;> simp

/-- A substitution that leaves its pattern out takes the last one. -/
theorem search_of_readSubstitution
    (read : context.readSubstitution arguments = .ok (substitution, memory))
    (omits : OmitsPattern arguments)
    : context.memory.search = some substitution.pattern := by
  cases arguments with
  | nil => exact (readSubstitution_nil_eq_ok_iff.mp read).1
  | cons delimiter text =>
      have found := (readSubstitution_cons_eq_ok_iff.mp read).1
      have body : (Field.cut delimiter text).body = [] := omits
      rw [SubstituteArguments.cut, body, patternBody_nil] at found
      exact pattern_nil_eq_ok_iff.mp found

/-- Lines that are selected by a pattern that is left out are selected by the last one. -/
theorem search_of_readSelector
    (read : context.readSelector letter arguments = .ok (pattern, inner))
    (omits : OmitsPattern arguments)
    : context.memory.search = some pattern := by
  obtain ⟨delimiter, text, rfl, found, _⟩ := readSelector_parts read
  have body : (Field.cut delimiter text).body = [] := omits
  rw [body, patternBody_nil] at found
  exact pattern_nil_eq_ok_iff.mp found

theorem innerText_of_readSelector
    (read : context.readSelector letter arguments = .ok (pattern, inner))
    : innerText (letter :: arguments) = inner := by
  obtain ⟨delimiter, text, rfl, _, rest⟩ := readSelector_parts read
  exact rest

----------------------------------------------------------------------------------------
-- Accepted operations
----------------------------------------------------------------------------------------

/-- What an accepted operation was read from, and the memory that reading it leaves. -/
inductive Accepts : Context → List Char → Operation → Memory → Prop
  | empty {context : Context} : Accepts context [] (.each .print) context.memory
  | plain {context : Context} {letter arguments operation} (other : letter ∉ ['s', 'g', 'v'])
    (plain : operation.IsPlain)
    : Accepts context (letter :: arguments) operation context.memory
  | substitute {context : Context} {arguments substitution memory}
    (read : context.readSubstitution arguments = .ok (substitution, memory))
    : Accepts context ('s' :: arguments) (.each (.substitute substitution)) memory
  | move {context : Context} {arguments destination}
    : Accepts context ('m' :: arguments) (.move destination)
        (context.readAddress .first arguments).2
  | global {context : Context} {letter arguments pattern inner command memory}
    (global : letter = 'g' ∨ letter = 'v')
    (selected : context.readSelector letter arguments = .ok (pattern, inner))
    (nested
      : Accepts (context.withMemory (context.memory.keepSearch pattern)) inner (.each command)
          memory)
    : Accepts context (letter :: arguments) (.global ⟨pattern, letter == 'g', command⟩) memory

theorem accepts_of_readMove (read : context.readMove arguments = (.ok (operation, rest), left))
    : context.Accepts ('m' :: arguments) operation left := by
  unfold readMove at read
  split at read
  · cases read
  · cases read
  · next found =>
      cases read
      have memory : (context.readAddress .first arguments).2 = left := by rw [found]
      exact memory ▸ .move

theorem accepts_of_readSimple
    (read : context.readSimple letter arguments = (.ok (operation, rest), left))
    : context.Accepts (letter :: arguments) operation left := by
  unfold readSimple at read
  dsimp only at read
  split at read
  -- The letters that may be refused are `q`, `r` and `w`; then come `s` and `m`.
  case h_8 =>
    split at read
    · cases read
    · cases read
      exact .plain (by decide) trivial
  case h_9 =>
    split at read
    · cases read
    · split at read
      · cases read
      · cases read
        exact .plain (by decide) trivial
  case h_10 =>
    split at read
    · cases read
    · cases read
      exact .plain (by decide) trivial
  case h_11 =>
    split at read
    · cases read
    · next accepted =>
        cases read
        exact .substitute accepted
  case h_12 => exact accepts_of_readMove read
  case h_13 => cases read
  all_goals
    cases read
    exact .plain (by decide) trivial

/-- Every operation that is accepted is read in one of these ways. By induction on the global
commands.
-/
theorem accepts_of_readOperation
    (read : context.readOperation text = (.ok (operation, rest), left))
    : context.Accepts text operation left := by
  induction context, text using readOperation.induct generalizing operation rest left with
  | case1 context =>
      rw [readOperation] at read
      cases read
      exact .empty
  | case2 context letter text global error unread =>
      rw [readOperation_of_unselected global unread] at read
      cases read
  | case3 context letter text global pattern inner selected _ ih =>
      rw [readOperation_of_selected global selected] at read
      unfold GlobalCommand.enclose at read
      split at read
      · next nested =>
          cases read
          exact .global global selected (ih nested)
      · cases read
      · cases read
  | case4 context letter text simple =>
      rw [readOperation_of_simple simple] at read
      exact accepts_of_readSimple read

----------------------------------------------------------------------------------------
-- Remembered operations
----------------------------------------------------------------------------------------

/-- The memory that an operation leaves, which was read from a text in a context. A substitution is
the last one. A global command leaves the substitution inside it as the last one, which has the
pattern that selects the lines if its own is left out; with any other command inside, it leaves the
pattern that selects the lines. A move leaves the pattern of its destination, if it searches for
one, and all other operations leave the memory as it was.
-/
def Remembers (context : Context) (text : List Char) (left : Memory) : Operation → Prop
  | .each (.substitute substitution) => left.Holds substitution
  | .global ⟨pattern, _, .substitute substitution⟩ =>
      left.Holds substitution
      ∧ ∃ arguments,
          innerText text = 's' :: arguments
          ∧ (OmitsPattern arguments → substitution.pattern = pattern)
  | .global command => left = context.memory.keepSearch command.pattern
  | .move _ =>
      left = context.memory
      ∨ ∃ mark ∈ ['/', '?'], ∃ rest pattern,
          text = 'm' :: mark :: rest ∧ left = context.memory.keepSearch pattern
  | _ => left = context.memory

theorem remembers_of_isPlain (plain : operation.IsPlain)
    : context.Remembers text context.memory operation := by
  match operation, plain with
  | .each .print, _ | .each .number, _ | .each .delete, _ => rfl
  | .input _, _ | .read _, _ | .write _, _ | .quit, _ => rfl

/-- A move remembers the pattern that its destination searches for, and nothing else. -/
theorem remembers_of_move (context : Context) (arguments : List Char) (destination : Int)
    : context.Remembers ('m' :: arguments) (context.readAddress .first arguments).2
        (.move destination) := by
  rw [readAddress_memory]
  cases searched : context.searchPattern? arguments with
  | none => exact Or.inl rfl
  | some pattern =>
      refine Or.inr ?_
      unfold searchPattern? at searched
      split at searched
      · exact ⟨'/', by simp, _, pattern, rfl, rfl⟩
      · exact ⟨'?', by simp, _, pattern, rfl, rfl⟩
      · cases searched

/-- A global command remembers what the command inside it does, which sees its pattern as the last
one.
-/
theorem remembers_of_global {command : LineCommand} {matching : Bool}
    (repeatable : context.memory.Repeatable)
    (selected : context.readSelector letter arguments = .ok (pattern, inner))
    (nested
      : Accepts (context.withMemory (context.memory.keepSearch pattern)) inner (.each command) left)
    : context.Remembers (letter :: arguments) left (.global ⟨pattern, matching, command⟩) := by
  cases nested with
  | empty => rfl
  | plain other plain =>
      match command, plain with
      | .print, _ | .number, _ | .delete, _ => rfl
  | substitute read =>
      have before : (context.memory.keepSearch pattern).Repeatable :=
        repeatable.of_sameSubstitution ⟨rfl, rfl⟩
      refine ⟨holds_of_readSubstitution before read, _, innerText_of_readSelector selected, ?_⟩
      intro omits
      exact (Option.some.inj (search_of_readSubstitution read omits)).symm

theorem remembers_of_accepts (repeatable : context.memory.Repeatable)
    (accepts : context.Accepts text operation left)
    : context.Remembers text left operation := by
  cases accepts with
  | empty => rfl
  | plain other plain => exact remembers_of_isPlain plain
  | substitute read => exact holds_of_readSubstitution repeatable read
  | move => exact remembers_of_move _ _ _
  | global global selected nested => exact remembers_of_global repeatable selected nested

/-- A substitution or a global command that leaves its pattern out works with the last pattern. -/
theorem pattern?_of_accepts (accepts : context.Accepts (letter :: arguments) operation left)
    (uses : letter ∈ ['s', 'g', 'v']) (omits : OmitsPattern arguments)
    : ∃ pattern, operation.pattern? = some pattern ∧ context.memory.search = some pattern := by
  cases accepts with
  | plain other plain => exact absurd uses other
  | substitute read => exact ⟨_, rfl, search_of_readSubstitution read omits⟩
  | move => simp at uses
  | global global selected nested =>
      exact ⟨_, rfl, search_of_readSelector selected omits⟩

/-- What an accepted operation uses is what is remembered, in every context that readings lead to. A
substitution is held by the memory from then on, also one inside a global command; any other global
command leaves its own pattern and the last substitution, a move at most the pattern that it
searches for, and all other operations nothing new. A pattern that is left out is exactly the one
that was the last before the operation was read.
-/
theorem Reached.uses_what_is_remembered (reached : context.Reached)
    (accepted : context.readOperation text = (.ok (operation, rest), left))
    : context.Remembers text left operation
      ∧ ∀ letter arguments,
          text = letter :: arguments
          → letter ∈ ['s', 'g', 'v']
          → OmitsPattern arguments
          → ∃ pattern,
              operation.pattern? = some pattern ∧ context.memory.search = some pattern := by
  have accepts := accepts_of_readOperation accepted
  refine ⟨remembers_of_accepts reached.repeatable accepts, ?_⟩
  rintro letter arguments rfl uses omits
  exact pattern?_of_accepts accepts uses omits

/-- The last pattern selects the lines and is taken over by the substitution in them, which is the
last one from then on.
-/
theorem Reached.uses_what_is_remembered_taking_over
    : ∃ (context : Context) (substitution : Substitution) (left : Memory),
        context.Reached
        ∧ context.readOperation "g//s//y/ 3".toList
          = (.ok (.global ⟨substitution.pattern, true, .substitute substitution⟩, []), left)
        ∧ context.memory.search = some substitution.pattern
        ∧ context.memory.replacement = some "b"
        ∧ left.Holds substitution
        ∧ substitution.replacement = "y" := by
  let context : Context :=
    ({} : Context).withMemory (({} : Context).readOperation "s/a/b/2".toList).2
  let substitution : Substitution := {
    pattern := ⟨"a", ⟨#[.accept, .one ⟨[(97, 97)]⟩ 0], 1⟩⟩
    replacement := "y"
    options := { chosen := 4 }
  }
  let left : Memory := ⟨some substitution.pattern, some "y", some " 3"⟩
  have reached : context.Reached := .read (.start {} false) (.operation _)
  have accepted
      : context.readOperation "g//s//y/ 3".toList
        = (.ok (.global ⟨substitution.pattern, true, .substitute substitution⟩, []), left) := by
    decide +kernel
  obtain ⟨⟨holds, _⟩, omitted⟩ := reached.uses_what_is_remembered accepted
  obtain ⟨pattern, used, last⟩ := omitted 'g' "//s//y/ 3".toList rfl (by decide) rfl
  obtain rfl : substitution.pattern = pattern := Option.some.inj used
  exact ⟨context, substitution, left, reached, accepted, last, by decide +kernel, holds, rfl⟩

end Context

end LineEditor
