import Mathlib.Control.Monad.Basic
import LineEditor.Command.Substitution
import LineEditor.Proofs.Text.Fields

/-! Options as they are written. A text is read as options exactly if it has known letters only, and
what comes of it depends on which letters it has: neither their order, nor how often they stand
there, nor the blanks between them count.
-/

namespace LineEditor

open Text (isBlank)

namespace SubstituteOptions

variable {options other start : SubstituteOptions} {front text : List Char} {letter : Char}
  {index : Nat}

/-- The letters that options are written with. -/
def IsLetter (letter : Char) : Prop :=
  letter = 'g' ∨ letter = 'p' ∨ ('1' ≤ letter ∧ letter ≤ '9') ∨ isBlank letter = true

/-- A digit asks for the match of an index. It counts the matches from one. -/
def Counts (letter : Char) (index : Nat) : Prop :=
  '1' ≤ letter ∧ letter ≤ '9' ∧ letter.toNat = index + '1'.toNat

/-- The options are those that the letters of a text ask for. -/
structure Asked (text : List Char) (options : SubstituteOptions) : Prop where
  all : options.all = true ↔ 'g' ∈ text
  print : options.print = true ↔ 'p' ∈ text
  chosen : ∀ index, options.chosen.getLsbD index = true ↔ ∃ letter ∈ text, Counts letter index

----------------------------------------------------------------------------------------
-- Accepted options
----------------------------------------------------------------------------------------

theorem asked_nil : Asked [] {} := by
  refine ⟨by simp, by simp, ?_⟩
  intro index
  simp

theorem exists_counts_concat {index : Nat}
    : (∃ other ∈ front ++ [letter], Counts other index)
      ↔ (∃ other ∈ front, Counts other index) ∨ Counts letter index := by
  simp [or_and_right, exists_or]

/-- A digit chooses the bit of its match. -/
theorem counts_iff_twoPow (digit : '1' ≤ letter ∧ letter ≤ '9') (index : Nat)
    : (BitVec.twoPow 9 (letter.toNat - '1'.toNat)).getLsbD index = true
      ↔ Counts letter index := by
  have low : '1'.toNat ≤ letter.toNat := digit.1
  have high : letter.toNat ≤ '9'.toNat := digit.2
  have one : '1'.toNat = 49 := rfl
  have nine : '9'.toNat = 57 := rfl
  simp only [BitVec.getLsbD_twoPow, Bool.and_eq_true, decide_eq_true_eq, Counts, digit.1, digit.2,
    true_and]
  omega

/-- One more letter is read, and the options are those of the longer text. -/
theorem Asked.add (asked : Asked front options) (known : IsLetter letter)
    : ∃ longer, options.add letter = .ok longer ∧ Asked (front ++ [letter]) longer := by
  obtain ⟨all, print, chosen⟩ := asked
  unfold SubstituteOptions.add
  by_cases every : letter = 'g'
  · subst every
    refine ⟨_, if_pos rfl, by simp, by simpa using print, ?_⟩
    intro index
    rw [exists_counts_concat, ← chosen]
    simp [Counts]
  rw [if_neg every]
  by_cases prints : letter = 'p'
  · subst prints
    refine ⟨_, if_pos rfl, by simpa using all, by simp, ?_⟩
    intro index
    rw [exists_counts_concat, ← chosen]
    simp [Counts]
  rw [if_neg prints]
  have sameAll : options.all = true ↔ 'g' ∈ front ++ [letter] := by
    simpa [Ne.symm every] using all
  have samePrint : options.print = true ↔ 'p' ∈ front ++ [letter] := by
    simpa [Ne.symm prints] using print
  by_cases digit : '1' ≤ letter ∧ letter ≤ '9'
  · refine ⟨_, if_pos (by simpa using digit), sameAll, samePrint, ?_⟩
    intro index
    rw [exists_counts_concat, ← chosen, ← counts_iff_twoPow digit, BitVec.getLsbD_or,
      Bool.or_eq_true]
  · obtain rfl | rfl | digits | blank := known
    · exact absurd rfl every
    · exact absurd rfl prints
    · exact absurd digits digit
    · rw [if_neg (by simpa using digit), if_pos blank]
      refine ⟨options, rfl, sameAll, samePrint, ?_⟩
      intro index
      rw [exists_counts_concat, ← chosen, or_iff_left]
      rintro ⟨low, high, _⟩
      exact digit ⟨low, high⟩

/-- Letter by letter the options come to what the whole text asks for. -/
theorem Asked.foldlM_add (asked : Asked front options) (known : ∀ letter ∈ text, IsLetter letter)
    : ∃ read,
        text.foldlM SubstituteOptions.add options = .ok read ∧ Asked (front ++ text) read := by
  induction text generalizing front options with
  | nil => exact ⟨options, rfl, by simpa using asked⟩
  | cons letter text ih =>
      obtain ⟨longer, added, asked⟩ := asked.add (known letter List.mem_cons_self)
      obtain ⟨read, rest, asked⟩ := ih asked fun other member =>
        known other (List.mem_cons_of_mem letter member)
      refine ⟨read, ?_, by simpa using asked⟩
      rw [List.foldlM_cons, added]
      exact rest

/-- A letter that can be added is one of those that options are written with. -/
theorem isLetter_of_add (added : options.add letter = .ok other) : IsLetter letter := by
  unfold SubstituteOptions.add at added
  split at added
  · next every => exact Or.inl every
  · split at added
    · next prints => exact Or.inr (Or.inl prints)
    · split at added
      · next digit => exact Or.inr (Or.inr (Or.inl (by simpa using digit)))
      · split at added
        · next blank => exact Or.inr (Or.inr (Or.inr blank))
        · cases added

theorem isLetter_of_foldlM_add (read : text.foldlM SubstituteOptions.add start = .ok options)
    : ∀ letter ∈ text, IsLetter letter := by
  induction text generalizing start with
  | nil => exact List.forall_mem_nil _
  | cons first text ih =>
      rw [List.foldlM_cons] at read
      obtain ⟨between, added, read⟩ := bind_eq_ok_iff.mp read
      exact List.forall_mem_cons.mpr ⟨isLetter_of_add added, ih read⟩

/-- A text asks for one value of the options at most. -/
theorem Asked.unique (asked : Asked text options) (again : Asked text other) : options = other := by
  have all : options.all = other.all := Bool.eq_iff_iff.mpr (asked.all.trans again.all.symm)
  have print : options.print = other.print :=
    Bool.eq_iff_iff.mpr (asked.print.trans again.print.symm)
  have chosen : options.chosen = other.chosen := by
    refine BitVec.eq_of_getLsbD_eq fun index _ => ?_
    exact Bool.eq_iff_iff.mpr ((asked.chosen index).trans (again.chosen index).symm)
  cases options
  cases other
  simp_all

/-- Options are read from the texts that have known letters only, as what these letters ask for. -/
theorem read_eq_ok_iff
    : read text = .ok options ↔ (∀ letter ∈ text, IsLetter letter) ∧ Asked text options := by
  constructor
  · intro accepted
    have known := isLetter_of_foldlM_add accepted
    obtain ⟨found, again, asked⟩ := asked_nil.foldlM_add known
    obtain rfl : found = options := Except.ok.inj (again.symm.trans accepted)
    exact ⟨known, asked⟩
  · rintro ⟨known, asked⟩
    obtain ⟨found, accepted, again⟩ := asked_nil.foldlM_add known
    rw [asked.unique again]
    exact accepted

----------------------------------------------------------------------------------------
-- Letters
----------------------------------------------------------------------------------------

/-- The texts have the same letters other than blanks, in any order and any number. -/
def SameLetters (left right : List Char) : Prop :=
  ∀ letter, isBlank letter = false → (letter ∈ left ↔ letter ∈ right)

theorem isBlank_of_counts (counts : Counts letter index) : isBlank letter = false := by
  obtain ⟨low, high, _⟩ := counts
  have low : 49 ≤ letter.toNat := low
  have high : letter.toNat ≤ 57 := high
  simp only [isBlank, Bool.or_eq_false_iff, Bool.and_eq_false_iff, decide_eq_false_iff_not,
    beq_eq_false_iff_ne]
  omega

/-- Texts with the same letters are read alike. -/
theorem read_of_sameLetters {again : List Char} (same : SameLetters text again)
    (accepted : read text = .ok options)
    : read again = .ok options := by
  obtain ⟨known, all, print, chosen⟩ := read_eq_ok_iff.mp accepted
  refine read_eq_ok_iff.mpr ⟨?_, all.trans (same 'g' rfl), print.trans (same 'p' rfl), ?_⟩
  · intro letter member
    cases blank : isBlank letter with
    | true => exact Or.inr (Or.inr (Or.inr blank))
    | false => exact known letter ((same letter blank).mpr member)
  · intro index
    rw [chosen]
    refine exists_congr fun letter => and_congr_left fun counts => ?_
    exact same letter (isBlank_of_counts counts)

----------------------------------------------------------------------------------------
-- Chosen matches
----------------------------------------------------------------------------------------

/-- Options as written choose the match of a number, where the first match has number one: a `g`
chooses all matches, and a digit the match that it counts.
-/
def Chooses (written : List Char) (number : Nat) : Prop :=
  'g' ∈ written ∨ number ≤ 9 ∧ Nat.digitChar number ∈ written

/-- A digit counts from one. -/
theorem counts_iff_digitChar
    : Counts letter index ↔ index < 9 ∧ letter = Nat.digitChar (index + 1) := by
  have one : '1'.toNat = 49 := rfl
  have nine : '9'.toNat = 57 := rfl
  constructor
  · rintro ⟨_, high, number⟩
    have high : letter.toNat ≤ '9'.toNat := high
    have within : index < 9 := by omega
    refine ⟨within, Char.toNat_inj.mp ?_⟩
    rw [Nat.toNat_digitChar_of_lt_ten (by omega)]
    omega
  · rintro ⟨within, rfl⟩
    have number := Nat.toNat_digitChar_of_lt_ten (n := index + 1) (by omega)
    refine ⟨?_, ?_, by omega⟩
    · show '1'.toNat ≤ (Nat.digitChar (index + 1)).toNat
      omega
    · show (Nat.digitChar (index + 1)).toNat ≤ '9'.toNat
      omega

/-- The options that a text asks for select the matches that the text chooses. -/
theorem Asked.selects_iff (asked : Asked text options) (index : Nat)
    : options.selects index = true ↔ Chooses text (index + 1) := by
  rw [selects, Bool.or_eq_true, asked.all, asked.chosen]
  simp only [Chooses, counts_iff_digitChar, Nat.succ_le_iff]
  refine or_congr_right ⟨?_, ?_⟩
  · rintro ⟨letter, member, within, rfl⟩
    exact ⟨within, member⟩
  · rintro ⟨within, member⟩
    exact ⟨_, member, within, rfl⟩

end SubstituteOptions

end LineEditor
