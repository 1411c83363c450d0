import LineEditor.Proofs.CommandLine.Intakes
import Mathlib.Data.List.TakeDrop

/-! The words of command lines that ask to edit, and the parts that they give. -/

namespace LineEditor.CommandLine

/-- A word that looks like no option. -/
def IsOperand (word : String) : Prop := word = "-" ∨ word.toList.head? ≠ some '-'

/-- Letters behind one hyphen. A prompt is what follows its letter, with an equals sign or without;
if nothing follows, the prompt is still to come.
-/
inductive Cluster : List Char → List Part → Bool → Prop
  | nil : Cluster [] [] false
  | ignoreCase {letters parts opens} (rest : Cluster letters parts opens)
    : Cluster ('i' :: letters) (.ignoreCase :: parts) opens
  | opens : Cluster ['p'] [] true
  | prompt {c value} (bare : c ≠ '=')
    : Cluster ('p' :: c :: value) [.prompt (String.ofList (c :: value))] false
  | assigned (value) : Cluster ('p' :: '=' :: value) [.prompt (String.ofList value)] false

/-- Parts that one word gives, and whether the prompt is to come in the next word. -/
inductive Gives : String → List Part → Bool → Prop
  | ignoreCase : Gives "--ignore-case" [.ignoreCase] false
  | debug : Gives "--debug" [.debug] false
  | opens : Gives "--prompt" [] true
  | assigned (value) : Gives ("--prompt=" ++ value) [.prompt value] false
  | letters {letters parts opens} (some : letters ≠ []) (cluster : Cluster letters parts opens)
    : Gives (String.ofList ('-' :: letters)) parts opens
  | file {name} (operand : IsOperand name) (free : isCommand name = false)
    : Gives name [.file name] false

/-- Words that spell parts, where the first word is a prompt if one is to come. Behind two hyphens
there is at most a file.
-/
inductive Spells : Bool → List String → List Part → Prop
  | nil : Spells false [] []
  | separator : Spells false ["--"] []
  | separated (name) : Spells false ["--", name] [.file name]
  | prompt {value words parts} (operand : IsOperand value) (rest : Spells false words parts)
    : Spells true (value :: words) (.prompt value :: parts)
  | word {word these opens words parts} (gives : Gives word these opens)
    (rest : Spells opens words parts)
    : Spells false (word :: words) (these ++ parts)

variable {word : String}

theorem ofArgument_eq_plain_iff : Word.ofArgument word = .plain ↔ IsOperand word := by
  have hyphen : word = "-" ↔ word.toList = ['-'] := by
    rw [← String.toList_inj]
    rfl
  unfold Word.ofArgument IsOperand
  rw [hyphen]
  rcases word.toList with _ | ⟨c, _ | ⟨next, rest⟩⟩
  · simp
  · by_cases lone : c = '-' <;> simp [lone]
  · by_cases hyphen : c = '-'
    · subst hyphen
      split <;> simp_all
    · simp [hyphen]

theorem toList_of_letters {letters : List Char} (looks : Word.ofArgument word = .letters letters)
    : word.toList = '-' :: letters ∧ letters ≠ [] := by
  unfold Word.ofArgument at looks
  split at looks
  case h_3 letter rest _ spelt =>
    rw [spelt, ← Word.letters.inj looks]
    exact ⟨rfl, List.cons_ne_nil _ _⟩
  all_goals contradiction

theorem ofArgument_letters {letters : List Char} (present : letters ≠ [])
    (single : letters.head? ≠ some '-')
    : Word.ofArgument (String.ofList ('-' :: letters)) = .letters letters := by
  unfold Word.ofArgument
  rw [String.toList_ofList]
  rcases letters with _ | ⟨letter, rest⟩
  · contradiction
  · have other : letter ≠ '-' := by simpa using single
    simp [other]

theorem toList_of_long {name : String} {value : Option String}
    (looks : Word.ofArgument word = .long name value)
    : word.toList
      = '-' :: '-' :: (name.toList ++ value.elim [] fun value => '=' :: value.toList) := by
  unfold Word.ofArgument at looks
  split at looks
  case h_2 text _ spelt =>
    rw [List.span_eq_takeWhile_dropWhile] at looks
    obtain ⟨rfl, rfl⟩ := Word.long.inj looks
    rw [spelt, String.toList_ofList]
    congr 2
    conv_lhs => rw [← List.takeWhile_append_dropWhile (p := (· != '=')) (l := text)]
    rcases rest : text.dropWhile (· != '=') with _ | ⟨c, rest⟩
    · rfl
    · have equals := List.head?_dropWhile_not (· != '=') text
      rw [rest] at equals
      have : c = '=' := by simpa using equals
      simp [this]
  all_goals contradiction

theorem ofArgument_assigned (value : String)
    : Word.ofArgument ("--prompt=" ++ value) = .long "prompt" (some value) := by
  have spelt : ("--prompt=" ++ value).toList
      = '-' :: '-' :: ("prompt".toList ++ '=' :: value.toList) := by
    rw [String.toList_append]
    rfl
  unfold Word.ofArgument
  rw [spelt]
  simp [List.span_eq_takeWhile_dropWhile]

namespace Intake

variable {intake : Intake} {opens : Bool}

theorem takeLetters_cons {letter : Char} {letters : List Char} (flag : Flag)
    (named : editFlags.find? (·.letter? = some letter) = some flag)
    (bare : flag.takesValue = false ∨ letters = [])
    : takeLetters programName editFlags (letter :: letters) intake
      = intake.take programName false flag >>= takeLetters programName editFlags letters := by
  have taken : ¬(flag.takesValue && !letters.isEmpty) = true := by
    rcases bare with bare | rfl
    · simp [bare]
    · simp
  rw [takeLetters, named]
  dsimp only
  rw [if_neg taken]

/-- Letters that give parts add them one after the other. -/
theorem takes_cluster {letters : List Char} {parts : List Part}
    (cluster : Cluster letters parts opens) (proper : intake.Proper)
    (ready : intake.awaits = false)
    : Leads (takeLetters programName editFlags letters intake) opens
      (intake.request?.bind fun request => parts.foldlM EditRequest.add? request) := by
  induction cluster generalizing intake with
  | nil => exact .taken proper ready (Option.bind_fun_some _).symm
  | @ignoreCase letters parts opens rest ih =>
      rw [takeLetters_cons .ignoreCase rfl (.inl rfl)]
      simp only [List.foldlM_cons, ← Option.bind_assoc, Option.bind_eq_bind]
      exact (takes_option proper ready (.inl ⟨rfl, rfl⟩) _ _).bind fun between => ih
  | opens =>
      have taken : intake.take programName false .prompt >>= takeLetters programName editFlags []
          = intake.take programName false .prompt := bind_pure _
      rw [takeLetters_cons .prompt rfl (.inr rfl), taken]
      exact (Option.bind_fun_some intake.request?).symm ▸ takes_prompt proper ready _ _
  | @prompt c value bare =>
      have taken : takeLetters programName editFlags ('p' :: c :: value) intake
          = intake.takeValue (String.ofList (c :: value)) := by
        simp [takeLetters, editFlags, Flag.letter?, Flag.takesValue, bare]
      rw [taken]
      simpa only [List.foldlM_cons, List.foldlM_nil, bind_pure] using takes_value proper ready _
  | assigned value =>
      have taken : takeLetters programName editFlags ('p' :: '=' :: value) intake
          = intake.takeValue (String.ofList value) := by
        simp [takeLetters, editFlags, Flag.letter?, Flag.takesValue]
      rw [taken]
      simpa only [List.foldlM_cons, List.foldlM_nil, bind_pure] using takes_value proper ready _

/-- Help and the version end the command line. -/
theorem take_ne_ok {flag : Flag} (ends : flag = .help ∨ flag = .version) (command long)
    (last : Intake)
    : intake.take command long flag ≠ .ok last := by
  intro taken
  obtain ⟨settled, _, taken⟩ := bind_eq_ok_iff.mp taken
  rcases ends with rfl | rfl <;> contradiction

/-- Letters that can be taken give parts. -/
theorem exists_cluster {letters : List Char} {last : Intake}
    (taken : takeLetters programName editFlags letters intake = .ok last)
    : ∃ parts opens, Cluster letters parts opens := by
  induction letters generalizing intake with
  | nil => exact ⟨_, _, .nil⟩
  | cons letter letters ih =>
      rw [takeLetters] at taken
      split at taken
      · contradiction
      next flag found =>
      have named : flag.letter? = some letter := by simpa using List.find?_some found
      cases flag with
      | prompt =>
          obtain rfl : 'p' = letter := Option.some.inj named
          rcases letters with _ | ⟨c, value⟩
          · exact ⟨_, _, .opens⟩
          · by_cases assigned : c = '='
            · subst assigned
              exact ⟨_, _, .assigned value⟩
            · exact ⟨_, _, .prompt assigned⟩
      | ignoreCase =>
          obtain rfl : 'i' = letter := Option.some.inj named
          obtain ⟨between, _, taken⟩ := bind_eq_ok_iff.mp taken
          obtain ⟨parts, opens, rest⟩ := ih taken
          exact ⟨_, _, .ignoreCase rest⟩
      | help | version =>
          obtain ⟨between, taken, _⟩ := bind_eq_ok_iff.mp taken
          exact absurd taken (take_ne_ok (by simp) _ _ _)
      | debug | showSettings | settingsPath => contradiction

end Intake

open Intake (Leads)

/-- Takes a word that names no command and does not end the options. -/
def takeWord (word : String) (intake : Intake) : Step :=
  match Word.ofArgument word with
  | .long name value => intake.takeLong programName editFlags name value
  | .letters letters => Intake.takeLetters programName editFlags letters intake
  | _ => intake.takeOperand false word

theorem Cluster.head {letters : List Char} {parts : List Part} {opens : Bool}
    (cluster : Cluster letters parts opens)
    : letters.head? ≠ some '-' := by
  cases cluster <;> simp

/-- A word that gives parts adds them one after the other. -/
theorem Gives.takes {these : List Part} {opens : Bool} {intake : Intake}
    (gives : Gives word these opens) (proper : intake.Proper) (ready : intake.awaits = false)
    : Leads (takeWord word intake) opens
      (intake.request?.bind fun request => these.foldlM EditRequest.add? request) := by
  unfold takeWord
  cases gives with
  | ignoreCase =>
      change Leads (intake.take programName true .ignoreCase) _ _
      simpa only [List.foldlM_cons, List.foldlM_nil, bind_pure]
        using Intake.takes_option proper ready (.inl ⟨rfl, rfl⟩) _ _
  | debug =>
      change Leads (intake.take programName true .debug) _ _
      simpa only [List.foldlM_cons, List.foldlM_nil, bind_pure]
        using Intake.takes_option proper ready (.inr ⟨rfl, rfl⟩) _ _
  | opens =>
      change Leads (intake.take programName true .prompt) _ _
      exact (Option.bind_fun_some intake.request?).symm ▸ Intake.takes_prompt proper ready _ _
  | assigned value =>
      rw [ofArgument_assigned]
      change Leads (intake.takeValue value) _ _
      simpa only [List.foldlM_cons, List.foldlM_nil, bind_pure]
        using Intake.takes_value proper ready value
  | letters present cluster =>
      rw [ofArgument_letters present cluster.head]
      exact Intake.takes_cluster cluster proper ready
  | file operand free =>
      rw [ofArgument_eq_plain_iff.mpr operand]
      simpa only [List.foldlM_cons, List.foldlM_nil, bind_pure]
        using Intake.takes_operand proper ready false word

/-- The word of an option by its long name. -/
theorem eq_of_long {name : String} {value : Option String}
    (looks : Word.ofArgument word = .long name value)
    : word = "--" ++ name ++ value.elim "" ("=" ++ ·) := by
  rw [← String.toList_inj, toList_of_long looks]
  cases value <;> simp [String.toList_append]

/-- A word that can be taken gives parts. -/
theorem exists_gives {intake last : Intake} (taken : takeWord word intake = .ok last)
    (free : isCommand word = false) (looks : Word.ofArgument word ≠ .separator)
    : ∃ these opens, Gives word these opens := by
  unfold takeWord at taken
  split at taken
  next name value looks =>
    have spelt := eq_of_long looks
    unfold Intake.takeLong at taken
    split at taken
    · contradiction
    next flag found =>
      have member := List.mem_of_find?_eq_some found
      obtain rfl : flag.long = name := by simpa using List.find?_some found
      rw [spelt]
      cases flag with
      | prompt => exact ⟨_, _, .opens⟩
      | ignoreCase => exact ⟨_, _, .ignoreCase⟩
      | debug => exact ⟨_, _, .debug⟩
      | help | version => exact absurd taken (Intake.take_ne_ok (by simp) _ _ _)
      | showSettings | settingsPath => contradiction
    next flag value found =>
      obtain rfl : flag.long = name := by simpa using List.find?_some found
      cases flag with
      | prompt => exact spelt ▸ ⟨_, _, .assigned value⟩
      | _ => contradiction
  next letters looks =>
    obtain ⟨spelt, present⟩ := toList_of_letters looks
    obtain ⟨these, opens, cluster⟩ := Intake.exists_cluster taken
    rw [← String.ofList_toList (s := word), spelt]
    exact ⟨_, _, .letters present cluster⟩
  next other neither =>
    rcases shape : Word.ofArgument word with _ | _ | _ | _
    · contradiction
    · exact absurd shape (other _ _)
    · exact absurd shape (neither _)
    · exact ⟨_, _, .file (ofArgument_eq_plain_iff.mp shape) free⟩

/-- A word that gives parts names no command and does not end the options. -/
theorem Gives.looks {these : List Part} {opens : Bool} (gives : Gives word these opens)
    : isCommand word = false ∧ Word.ofArgument word ≠ .separator := by
  have free {word : String} (hyphen : word.toList.head? = some '-') : isCommand word = false := by
    rcases command : isCommand word with _ | _
    · rfl
    · have : word = settingsCommand ∨ word = helpCommand := by simpa [isCommand] using command
      rcases this with rfl | rfl <;> exact absurd hyphen (by decide)
  cases gives with
  | ignoreCase | debug | opens => decide
  | assigned value =>
      rw [ofArgument_assigned]
      exact ⟨free (by simp [String.toList_append]), nofun⟩
  | letters present cluster =>
      rw [ofArgument_letters present cluster.head]
      exact ⟨free (by simp), nofun⟩
  | file operand free =>
      rw [ofArgument_eq_plain_iff.mpr operand]
      exact ⟨free, nofun⟩

theorem eq_of_separator (looks : Word.ofArgument word = .separator) : word = "--" := by
  rw [← String.toList_inj]
  unfold Word.ofArgument at looks
  split at looks
  next spelt => exact spelt
  all_goals contradiction

end LineEditor.CommandLine
