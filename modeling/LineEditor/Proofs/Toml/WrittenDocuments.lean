import LineEditor.Proofs.Text.Fields
import LineEditor.Proofs.Toml.WrittenTexts
import LineEditor.Toml.Document

/-! Configuration documents that are written line by line are read back: headers of tables, strings
and booleans under names, and empty lines between them.
-/

namespace LineEditor.Toml

variable {c : Char} {name : String} {value : Value} {line text written rest : List Char}
  {lines : List (List Char)} {statement : Statement} {statements : List Statement}

----------------------------------------------------------------------------------------
-- Names
----------------------------------------------------------------------------------------

/-- A name that needs no quotes as a key. -/
def IsBare (name : String) : Prop :=
  name.toList ≠ [] ∧ name.toList.all isKeyChar

instance decidableIsBare (name : String) : Decidable (IsBare name) :=
  inferInstanceAs (Decidable (name.toList ≠ [] ∧ name.toList.all isKeyChar))

theorem dropSpaces_cons (solid : ¬ isSpace c) (rest : List Char)
    : dropSpaces (c :: rest) = c :: rest :=
  List.dropWhile_cons_of_neg solid

/-- The character cannot be the first one of a statement. -/
def isIdle (c : Char) : Bool :=
  isSpace c || c = '#' || c = '\n' || c = '\r'

theorem not_isSpace_of_not_isIdle (busy : ¬ isIdle c) : ¬ isSpace c :=
  fun space => busy (by simp [isIdle, space])

theorem IsBare.starts (bare : IsBare name)
    : ∃ first behind, name.toList = first :: behind ∧ ¬ isIdle first ∧ first ≠ '[' := by
  obtain ⟨first, behind, chars⟩ := List.exists_cons_of_ne_nil bare.1
  have key : isKeyChar first := List.all_eq_true.mp bare.2 first (chars ▸ List.mem_cons_self)
  have none : [' ', '\t', '#', '\n', '\r', '['].any isKeyChar = false := by decide
  have apart := List.any_eq_false.mp none first
  refine ⟨first, behind, chars, fun idle => apart ?_ key, fun same => apart (by simp [same]) key⟩
  simpa [isIdle, isSpace, or_assoc] using Or.inl idle

theorem readName_append (bare : IsBare name) (apart : ∀ c ∈ rest.head?, isKeyChar c = false)
    : readName (name.toList ++ rest) = some (name, rest) := by
  rw [readName, span_append (List.all_eq_true.mp bare.2) apart]
  simp [bare.1]

/-- A name is a whole key in front of blanks and then anything but a dot. -/
theorem readKey_append (bare : IsBare name) (apart : ∀ c ∈ rest.head?, isKeyChar c = false)
    (next : dropSpaces rest = c :: written) (single : c ≠ '.')
    : readKey (name.toList ++ rest) = some (⟨[], name⟩, c :: written) := by
  have solid : dropSpaces (name.toList ++ rest) = name.toList ++ rest := by
    obtain ⟨first, behind, chars, busy, -⟩ := bare.starts
    rw [chars]
    exact dropSpaces_cons (not_isSpace_of_not_isIdle busy) _
  rw [readKey, nestingLimit, readNames, solid, readName_append bare apart]
  simp [next, single]

----------------------------------------------------------------------------------------
-- Values
----------------------------------------------------------------------------------------

/-- What is written is read as a value in front of the end of the line. -/
structure Gives (written : List Char) (value : Value) : Prop where
  starts : ∃ c ∈ written.head?, ¬ isSpace c
  read (rest : List Char) : readValue (written ++ '\n' :: rest) = some (value, '\n' :: rest)

/-- A string that is written starts with a quote. -/
theorem writeText_starts (text : List Char)
    : ∃ quote ∈ (writeText text).head?, quote = '"' ∨ quote = '\'' := by
  unfold writeText
  cases TextForm.choose text <;> simp

theorem gives_writeText (text : List Char)
    : Gives (writeText text) (.text (String.ofList text)) := by
  obtain ⟨quote, head, either⟩ := writeText_starts text
  refine ⟨⟨quote, head, ?_⟩, fun rest => ?_⟩
  · rcases either with rfl | rfl <;> decide
  · have read := readText_writeText text ('\n' :: rest) (by simp) (by simp)
    have scalar
        : readValue (writeText text ++ '\n' :: rest)
          = readScalar (writeText text ++ '\n' :: rest) := by
      obtain ⟨behind, shape⟩ := List.head?_eq_some_iff.mp head
      rw [shape]
      rcases either with rfl | rfl <;> rfl
    rw [scalar, readScalar, read]
    rfl

theorem gives_true : Gives "true".toList (.boolean true) :=
  ⟨⟨'t', rfl, by decide⟩, fun _ => rfl⟩

theorem gives_false : Gives "false".toList (.boolean false) :=
  ⟨⟨'f', rfl, by decide⟩, fun _ => rfl⟩

----------------------------------------------------------------------------------------
-- Lines
----------------------------------------------------------------------------------------

/-- A line is read as a statement. -/
structure States (line : List Char) (statement : Statement) : Prop where
  starts : ∃ c ∈ line.head?, ¬ isIdle c
  read (rest : List Char) : readStatement (line ++ '\n' :: rest) = some (statement, '\n' :: rest)

theorem readStatement_bracket (single : rest.head? ≠ some '[')
    : readStatement ('[' :: rest)
      = (readKey rest).bind fun (key, rest) =>
        (readWord "]" rest).map fun rest => (.header key, rest) := by
  unfold readStatement
  split
  · simp_all
  · rename_i same
    obtain ⟨-, rfl⟩ := List.cons.inj same
    cases readKey rest with
    | none => rfl
    | some found => cases word : readWord "]" found.2 <;> simp [word]
  · simp_all

theorem readStatement_name (other : text.head? ≠ some '[')
    : readStatement text
      = (readPair readValue text).map fun ((key, value), rest) => (.pair key value, rest) := by
  unfold readStatement
  split
  · simp_all
  · simp_all
  · cases readPair readValue text <;> rfl

/-- The line that the table with a name starts with. -/
def headerLine (name : String) : List Char := '[' :: name.toList ++ [']']

/-- The line that gives a value, as it is written, to a name. -/
def pairLine (name : String) (written : List Char) : List Char :=
  name.toList ++ " = ".toList ++ written

theorem states_headerLine (bare : IsBare name)
    : States (headerLine name) (.header ⟨[], name⟩) := by
  refine ⟨⟨'[', rfl, by decide⟩, fun rest => ?_⟩
  have shape
      : headerLine name ++ '\n' :: rest = '[' :: (name.toList ++ ']' :: '\n' :: rest) := by
    simp [headerLine]
  have single : (name.toList ++ ']' :: '\n' :: rest).head? ≠ some '[' := by
    obtain ⟨first, behind, chars, -, other⟩ := bare.starts
    simpa [chars] using other
  have read
      : readKey (name.toList ++ ']' :: '\n' :: rest)
        = some (⟨[], name⟩, ']' :: '\n' :: rest) :=
    readKey_append bare (by simp +decide) (dropSpaces_cons (by decide) _) (by decide)
  rw [shape, readStatement_bracket single, read]
  rfl

theorem states_pairLine (bare : IsBare name) (gives : Gives written value)
    : States (pairLine name written) (.pair ⟨[], name⟩ value) := by
  obtain ⟨first, behind, chars, busy, other⟩ := bare.starts
  refine ⟨⟨first, by simp [pairLine, chars], busy⟩, fun rest => ?_⟩
  have shape
      : pairLine name written ++ '\n' :: rest
        = name.toList ++ ' ' :: '=' :: ' ' :: (written ++ '\n' :: rest) := by
    simp [pairLine]
  have single
      : (name.toList ++ ' ' :: '=' :: ' ' :: (written ++ '\n' :: rest)).head? ≠ some '[' := by
    simpa [chars] using other
  have read
      : readKey (name.toList ++ ' ' :: '=' :: ' ' :: (written ++ '\n' :: rest))
        = some (⟨[], name⟩, '=' :: ' ' :: (written ++ '\n' :: rest)) :=
    readKey_append bare (by simp +decide) rfl (by decide)
  have start : dropSpaces (' ' :: (written ++ '\n' :: rest)) = written ++ '\n' :: rest := by
    obtain ⟨c, head, solid⟩ := gives.starts
    obtain ⟨tail, rfl⟩ := List.head?_eq_some_iff.mp head
    exact (List.dropWhile_cons_of_pos rfl).trans (dropSpaces_cons solid _)
  rw [shape, readStatement_name single]
  simp [readPair, read, start, gives.read]

theorem readStatements_cons (states : States line statement) (turns : Nat) (rest : List Char)
    : readStatements (turns + 1) (line ++ '\n' :: rest)
      = (readStatements turns rest).map (statement :: ·) := by
  obtain ⟨c, head, busy⟩ := states.starts
  obtain ⟨behind, rfl⟩ := List.head?_eq_some_iff.mp head
  simp only [isIdle, Bool.or_eq_true, decide_eq_true_eq, not_or] at busy
  obtain ⟨⟨⟨solid, hash⟩, lineFeed⟩, carriageReturn⟩ := busy
  have unfinished : finishLine (c :: behind ++ '\n' :: rest) = none := by
    simp [finishLine, dropSpaces_cons solid, hash, lineEnd?, lineFeed, carriageReturn]
  have start : dropSpaces (c :: behind ++ '\n' :: rest) = c :: behind ++ '\n' :: rest :=
    dropSpaces_cons solid _
  have finished : finishLine ('\n' :: rest) = some rest := rfl
  rw [readStatements, if_neg (by simp), unfinished, start, states.read]
  simp only [Option.bind_eq_bind, Option.bind_some, finished]
  cases readStatements turns rest <;> rfl

----------------------------------------------------------------------------------------
-- Documents
----------------------------------------------------------------------------------------

/-- Lines make statements, each line one of them and an empty line none. -/
inductive Makes : List (List Char) → List Statement → Prop
  | nil : Makes [] []
  | empty {lines : List (List Char)} {statements : List Statement}
    (makes : Makes lines statements)
    : Makes ([] :: lines) statements
  | line {line : List Char} {lines : List (List Char)} {statement : Statement}
    {statements : List Statement} (states : States line statement)
    (makes : Makes lines statements)
    : Makes (line :: lines) (statement :: statements)

/-- A document of lines, with a line feed after each. -/
def ofLines (lines : List (List Char)) : List Char := lines.flatMap (· ++ ['\n'])

theorem ofLines_cons (line : List Char) (lines : List (List Char))
    : ofLines (line :: lines) = line ++ '\n' :: ofLines lines := by
  rw [ofLines, List.flatMap_cons, List.append_assoc]
  rfl

/-- There are turns enough for all lines where there is one for each character and one more. -/
theorem Makes.readStatements (makes : Makes lines statements) {turns : Nat}
    (enough : (ofLines lines).length < turns)
    : readStatements turns (ofLines lines) = some statements := by
  induction makes generalizing turns with
  | nil =>
      obtain ⟨turns, rfl⟩ := Nat.exists_eq_add_one.mpr enough
      rfl
  | empty _ ih =>
      obtain ⟨turns, rfl⟩ := Nat.exists_eq_add_one.mpr (Nat.zero_lt_of_lt enough)
      exact ih (Nat.lt_of_succ_lt_succ enough)
  | line states _ ih =>
      obtain ⟨turns, rfl⟩ := Nat.exists_eq_add_one.mpr (Nat.zero_lt_of_lt enough)
      rw [ofLines_cons, List.length_append, List.length_cons] at enough
      rw [ofLines_cons, readStatements_cons states, ih (by omega), Option.map_some]

theorem Makes.readDocument {document : String} (makes : Makes lines statements)
    (spelt : document.toList = ofLines lines) (unmarked : (ofLines lines).head? ≠ some '\uFEFF')
    : readDocument document = (statements.foldlM Draft.add {}).map Draft.entries := by
  unfold Toml.readDocument
  rw [spelt]
  split
  · simp_all
  · dsimp only
    rw [makes.readStatements (Nat.lt_succ_self _), Option.bind_eq_bind, Option.bind_some]
    cases statements.foldlM Draft.add {} <;> rfl

end LineEditor.Toml
