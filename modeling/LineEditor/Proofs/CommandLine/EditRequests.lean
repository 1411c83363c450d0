import LineEditor.Proofs.CommandLine.ArgumentParts

/-! Command lines that ask to edit: they are spelt of parts, and every part is given once. In what
order the parts are checked does not matter.
-/

namespace LineEditor.CommandLine

open Intake (Leads)

variable {word : String} {words : List String} {intake : Intake}

theorem readWords_cons (ready : intake.awaits = false) (free : isCommand word = false)
    (looks : Word.ofArgument word ≠ .separator)
    : readWords (word :: words) intake = takeWord word intake >>= readWords words := by
  obtain ⟨other, another⟩ : word ≠ settingsCommand ∧ word ≠ helpCommand := by
    simpa [isCommand] using free
  rw [readWords, if_neg (other ·.2), if_neg (another ·.2), takeWord]
  rcases shape : Word.ofArgument word with _ | _ | _ | _
  · contradiction
  · rfl
  · rfl
  · dsimp only
    rw [if_neg (Bool.eq_false_iff.mp ready)]

/-- Words of commands ask for no editing. -/
theorem readWords_of_command (ready : intake.awaits = false) (command : isCommand word = true)
    (last : Intake)
    : readWords (word :: words) intake ≠ .ok last := by
  intro read
  rw [readWords] at read
  split at read
  · obtain ⟨view, _, read⟩ := bind_eq_ok_iff.mp read
    obtain ⟨settled, _, read⟩ := bind_eq_ok_iff.mp read
    contradiction
  next other =>
  split at read
  · contradiction
  next another =>
  have : word = settingsCommand ∨ word = helpCommand := by simpa [isCommand] using command
  rcases this with rfl | rfl
  · exact other ⟨ready, rfl⟩
  · exact another ⟨ready, rfl⟩

/-- A prompt that is to come is the next word, which looks like no option. -/
theorem readWords_of_awaits (awaits : intake.awaits = true) {last : Intake}
    : readWords (word :: words) intake = .ok last
      ↔ IsOperand word
        ∧ readWords words { intake with pending := some (.prompt (some word)) } = .ok last := by
  rw [readWords, if_neg (by simp [awaits]), if_neg (by simp [awaits]), ← ofArgument_eq_plain_iff]
  rcases shape : Word.ofArgument word with _ | ⟨name, value⟩ | letters | _
  · simp only [reduceCtorEq, false_and, iff_false]
    intro read
    rcases words with _ | ⟨operand, operands⟩
    · exact not_settled_of_awaits awaits pure last (by simpa using read)
    · rw [List.foldlM_cons, bind_assoc] at read
      obtain ⟨between, taken, _⟩ := bind_eq_ok_iff.mp read
      exact takeOperand_of_awaits awaits _ _ between taken
  · simp only [reduceCtorEq, false_and, iff_false]
    intro read
    obtain ⟨between, taken, _⟩ := bind_eq_ok_iff.mp read
    exact takeLong_of_awaits awaits _ _ between taken
  · simp only [reduceCtorEq, false_and, iff_false]
    intro read
    obtain ⟨between, taken, _⟩ := bind_eq_ok_iff.mp read
    exact takeLetters_of_awaits awaits (toList_of_letters shape).2 between taken
  · simp [awaits]

/-- The words are taken to the end and ask for a request. -/
def Reads (words : List String) (intake : Intake) (request : EditRequest) : Prop :=
  ∃ last, readWords words intake = .ok last ∧ last.request = request

variable {request : EditRequest} {parts : List Part}

theorem Intake.Checked.ends_iff {step : Step} {request? : Option EditRequest}
    (checked : Checked step request?)
    : (∃ last, step = .ok last ∧ last.request = request) ↔ request? = some request := by
  cases checked <;> simp

theorem Intake.Leads.settle {step : Step} {request? : Option EditRequest}
    (leads : Leads step false request?)
    : Checked (step >>= Intake.settle) request? := by
  cases leads with
  | refused => exact .refused
  | taken proper ready means => exact means ▸ checked_settle proper ready

theorem readWords_separator (words : List String) (intake : Intake)
    : readWords ("--" :: words) intake
      = words.foldlM (Intake.takeOperand true) intake >>= Intake.settle := by
  have other : "--" ≠ settingsCommand := by decide
  have another : "--" ≠ helpCommand := by decide
  rw [readWords, if_neg (other ·.2), if_neg (another ·.2)]
  rfl

theorem foldlM_operands_ne_ok {name second : String} {rest : List String} (last : Intake)
    : (name :: second :: rest).foldlM (Intake.takeOperand true) intake ≠ .ok last := by
  rw [List.foldlM_cons]
  intro taken
  obtain ⟨first, taken, next⟩ := bind_eq_ok_iff.mp taken
  rw [List.foldlM_cons] at next
  obtain ⟨both, next, _⟩ := bind_eq_ok_iff.mp next
  obtain ⟨fault, refused⟩ :=
    Intake.takeOperand_of_hasFile (Intake.hasFile_of_takeOperand taken) true second
  rw [refused] at next
  contradiction

/-- Behind two hyphens there is at most a file. -/
theorem reads_separator_iff (proper : intake.Proper) (ready : intake.awaits = false)
    : Reads ("--" :: words) intake request
      ↔ words = [] ∧ intake.request? = some request
        ∨ ∃ name,
            words = [name]
            ∧ intake.request?.bind (EditRequest.add? · (.file name)) = some request := by
  unfold Reads
  rw [readWords_separator]
  rcases words with _ | ⟨name, _ | ⟨second, rest⟩⟩
  · simpa using (Intake.checked_settle proper ready).ends_iff
  · simpa using (Intake.takes_operand proper ready true name).settle.ends_iff
  · simp only [reduceCtorEq, false_and, List.cons.injEq, and_false, exists_const, or_self,
      iff_false]
    rintro ⟨last, taken, _⟩
    obtain ⟨all, taken, _⟩ := bind_eq_ok_iff.mp taken
    exact foldlM_operands_ne_ok all taken

/-- The request that an intake and parts behind it make together. -/
def Intake.with? (intake : Intake) (parts : List Part) : Option EditRequest :=
  intake.request?.bind fun request => parts.foldlM EditRequest.add? request

theorem with?_cons (intake : Intake) (part : Part) (parts : List Part)
    : intake.with? (part :: parts)
      = (intake.request?.bind (EditRequest.add? · part)).bind fun request =>
          parts.foldlM EditRequest.add? request := by
  simp only [Intake.with?, List.foldlM_cons, Option.bind_assoc]
  rfl

theorem with?_append (intake : Intake) (these parts : List Part)
    : intake.with? (these ++ parts)
      = (intake.with? these).bind fun request => parts.foldlM EditRequest.add? request := by
  simp only [Intake.with?, List.foldlM_append, Option.bind_assoc]
  rfl

theorem with?_of_awaits (awaits : intake.awaits = true) (value : String) (parts : List Part)
    : intake.with? (.prompt value :: parts)
      = ({ intake with pending := some (.prompt (some value)) } : Intake).with? parts := by
  have pending : intake.pending = some (.prompt none) := by simpa [Intake.awaits] using awaits
  have means : intake.request? = some intake.request := by rw [Intake.request?, pending]
  rw [with?_cons, means]
  rfl

/-- The words take an intake where parts say that they spell. -/
def ReadsAsSpelt (words : List String) : Prop :=
  ∀ (intake : Intake) (request : EditRequest),
    intake.Proper
    → (Reads words intake request
      ↔ ∃ parts, Spells intake.awaits words parts ∧ intake.with? parts = some request)

theorem reads_nil : ReadsAsSpelt [] := by
  intro intake request proper
  rcases ready : intake.awaits with _ | _
  · refine (Intake.checked_settle proper ready).ends_iff.trans ⟨fun means => ?_, ?_⟩
    · exact ⟨[], .nil, by simpa [Intake.with?] using means⟩
    · rintro ⟨_, _ | _, means⟩
      simpa [Intake.with?] using means
  · have ended (last : Intake) : readWords [] intake ≠ .ok last := by
      rw [readWords, settle_of_awaits ready]
      intro ended
      contradiction
    constructor
    · rintro ⟨last, read, _⟩
      exact absurd read (ended last)
    · rintro ⟨_, spells, _⟩
      cases spells

theorem reads_of_awaits (rest : ReadsAsSpelt words) (proper : intake.Proper)
    (awaits : intake.awaits = true)
    : Reads (word :: words) intake request
      ↔ ∃ parts, Spells true (word :: words) parts ∧ intake.with? parts = some request := by
  have next : ({ intake with pending := some (.prompt (some word)) } : Intake).Proper :=
    ⟨proper.prompted, fun pending => nomatch pending⟩
  constructor
  · rintro ⟨last, read, ends⟩
    obtain ⟨operand, read⟩ := (readWords_of_awaits awaits).mp read
    obtain ⟨parts, spells, means⟩ := (rest _ request next).mp ⟨last, read, ends⟩
    exact ⟨_, .prompt operand spells, (with?_of_awaits awaits word parts).trans means⟩
  · rintro ⟨_, spells, means⟩
    cases spells with
    | @prompt _ _ parts operand spells =>
        rw [with?_of_awaits awaits] at means
        obtain ⟨last, read, ends⟩ := (rest _ request next).mpr ⟨parts, spells, means⟩
        exact ⟨last, (readWords_of_awaits awaits).mpr ⟨operand, read⟩, ends⟩

theorem reads_of_leads {step : Step} {opens : Bool} {request? : Option EditRequest}
    (rest : ReadsAsSpelt words) (leads : Leads step opens request?)
    : (∃ next, step = .ok next ∧ Reads words next request)
      ↔ ∃ parts,
          Spells opens words parts
          ∧ (request?.bind fun request => parts.foldlM EditRequest.add? request)
            = some request := by
  cases leads with
  | refused => simp
  | @taken next _ _ proper awaits means =>
      subst awaits means
      exact (by simp : _ ↔ Reads words next request).trans (rest next request proper)

theorem reads_of_free (rest : ReadsAsSpelt words) (proper : intake.Proper)
    (ready : intake.awaits = false) (free : isCommand word = false)
    (looks : Word.ofArgument word ≠ .separator)
    : Reads (word :: words) intake request
      ↔ ∃ parts, Spells false (word :: words) parts ∧ intake.with? parts = some request := by
  have stepwise : Reads (word :: words) intake request
      ↔ ∃ next, takeWord word intake = .ok next ∧ Reads words next request := by
    simp only [Reads, readWords_cons ready free looks, bind_eq_ok_iff]
    exact ⟨fun ⟨last, ⟨next, taken, read⟩, ends⟩ => ⟨next, taken, last, read, ends⟩,
      fun ⟨next, taken, last, read, ends⟩ => ⟨last, ⟨next, taken, read⟩, ends⟩⟩
  rw [stepwise]
  constructor
  · rintro ⟨next, taken, reads⟩
    -- The word is taken, so that it gives parts; what they are, `gives.takes` says for any of them.
    obtain ⟨these, opens, gives⟩ := exists_gives taken free looks
    obtain ⟨parts, spells, means⟩ :=
      (reads_of_leads rest (gives.takes proper ready)).mp ⟨next, taken, reads⟩
    exact ⟨these ++ parts, .word gives spells, (with?_append intake these parts).trans means⟩
  · rintro ⟨_, spells, means⟩
    cases spells with
    | separator | separated => exact absurd rfl looks
    | @word _ these opens _ parts gives spells =>
        rw [with?_append] at means
        exact (reads_of_leads rest (gives.takes proper ready)).mpr ⟨parts, spells, means⟩

theorem reads_of_separator (proper : intake.Proper) (ready : intake.awaits = false)
    : Reads ("--" :: words) intake request
      ↔ ∃ parts, Spells false ("--" :: words) parts ∧ intake.with? parts = some request := by
  rw [reads_separator_iff proper ready]
  constructor
  · rintro (⟨rfl, means⟩ | ⟨name, rfl, means⟩)
    · exact ⟨[], .separator, by simpa [Intake.with?] using means⟩
    · exact ⟨[.file name], .separated name, by simpa [Intake.with?] using means⟩
  · rintro ⟨_, spells, means⟩
    cases spells with
    | separator => exact .inl ⟨rfl, by simpa [Intake.with?] using means⟩
    | separated name => exact .inr ⟨name, rfl, by simpa [Intake.with?] using means⟩
    | word gives => exact absurd rfl gives.looks.2

/-- By induction on the words; a word is a prompt that is to come, names a command, ends the options
or gives parts.
-/
theorem reads_as_spelt (words : List String) : ReadsAsSpelt words := by
  induction words with
  | nil => exact reads_nil
  | cons word words rest =>
      intro intake request proper
      rcases ready : intake.awaits with _ | _
      · rcases command : isCommand word with _ | _
        · by_cases looks : Word.ofArgument word = .separator
          · obtain rfl := eq_of_separator looks
            exact reads_of_separator proper ready
          · exact reads_of_free rest proper ready command looks
        · constructor
          · rintro ⟨last, read, _⟩
            exact absurd read (readWords_of_command ready command last)
          · rintro ⟨_, spells, _⟩
            cases spells with
            | separator | separated => contradiction
            | word gives =>
                rw [gives.looks.1] at command
                contradiction
      · exact reads_of_awaits rest proper ready

/-- A command line asks to edit exactly if it spells parts each of which is given once. -/
theorem ofArguments_eq_edit_iff {arguments : List String}
    : Invocation.ofArguments arguments = .edit request
      ↔ ∃ parts,
          Spells false arguments parts ∧ parts.foldlM EditRequest.add? {} = some request := by
  have reads : Invocation.ofArguments arguments = .edit request ↔ Reads arguments {} request := by
    unfold Invocation.ofArguments Reads
    rcases read : readWords arguments {} with invocation | last
    · have other : invocation ≠ .edit request := by
        rintro rfl
        exact endsUnedited_readWords arguments {} request read
      simpa using other
    · constructor
      · intro asked
        exact ⟨last, rfl, Invocation.edit.inj asked⟩
      · rintro ⟨_, rest, rfl⟩
        exact Except.ok.inj rest ▸ rfl
  exact reads.trans (reads_as_spelt arguments {} request (.of_settled rfl rfl))

end LineEditor.CommandLine
