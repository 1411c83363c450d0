import LineEditor.CommandLine.Invocation
import LineEditor.Proofs.Text.Fields

/-! Intakes and the requests they stand for. What is pending is checked late, but an intake can
always be taken for the request that its parts make, if they can all be added.
-/

namespace LineEditor.CommandLine

/-- What a command line that asks to edit consists of. -/
inductive Part where
  | ignoreCase
  | debug
  | prompt (value : String)
  | file (name : String)
  deriving DecidableEq, Repr

/-- Adds a part to a request that does not have it. No file has an empty name. -/
def EditRequest.add? (request : EditRequest) : Part → Option EditRequest
  | .ignoreCase => if request.ignoreCase then none else some { request with ignoreCase := true }
  | .debug => if request.debug then none else some { request with debug := true }
  | .prompt value =>
      if request.prompt.isSome then none else some { request with prompt := some value }
  | .file name =>
      if request.file.isSome || name.isEmpty then none else some { request with file := some name }

namespace Intake

variable {intake : Intake} {opens : Bool}

/-- The request that has been taken and checked. -/
def request (intake : Intake) : EditRequest where
  file := intake.file
  prompt := intake.prompt
  ignoreCase := intake.given.contains .ignoreCase
  debug := intake.given.contains .debug

/-- The request that has been taken, if what is pending passes its check. A prompt that is still to
come is no part of it.
-/
def request? (intake : Intake) : Option EditRequest :=
  match intake.pending with
  | none | some (.prompt none) => some intake.request
  | some (.prompt (some value)) => intake.request.add? (.prompt value)
  | some (.file name) => intake.request.add? (.file name)

/-- An intake that can arise: a prompt is there exactly if the option is, and no file is pending
behind another one.
-/
structure Proper (intake : Intake) : Prop where
  prompted : intake.given.contains .prompt = intake.prompt.isSome
  single {name} (pending : intake.pending = some (.file name)) : intake.file = none

theorem Proper.of_settled (prompted : intake.given.contains .prompt = intake.prompt.isSome)
    (settled : intake.pending = none)
    : intake.Proper where
  prompted := prompted
  single pending := by simp [settled] at pending

/-- A step with all checks made: it ends in an intake of a request with nothing pending, or it is
refused as there is no such request.
-/
inductive Checked : Step → Option EditRequest → Prop
  | refused {invocation} : Checked (.error invocation) none
  | settled {next} (proper : next.Proper) (pending : next.pending = none)
    : Checked (.ok next) (some next.request)

/-- A step that may leave something pending, with the request if it passes its check. -/
inductive Leads : Step → Bool → Option EditRequest → Prop
  | refused {invocation opens} : Leads (.error invocation) opens none
  | taken {next opens request?} (proper : next.Proper) (awaits : next.awaits = opens)
    (means : next.request? = request?)
    : Leads (.ok next) opens request?

variable {step : Step} {next : Intake → Step} {request? : Option EditRequest}
  {act : EditRequest → Option EditRequest}

theorem request?_of_settled (pending : intake.pending = none)
    : intake.request? = some intake.request := by
  rw [Intake.request?, pending]

theorem Checked.bind (checked : Checked step request?)
    (onwards : ∀ settled,
      settled.Proper
      → settled.pending = none
      → request? = some settled.request
      → Leads (next settled) opens (act settled.request))
    : Leads (step >>= next) opens (request?.bind act) := by
  cases checked with
  | refused => exact .refused
  | settled proper pending => exact onwards _ proper pending rfl

theorem Checked.leads (checked : Checked step request?) : Leads step false request? := by
  cases checked with
  | refused => exact .refused
  | settled proper pending =>
      exact .taken proper (by simp [awaits, pending]) (request?_of_settled pending)

theorem Leads.bind (leads : Leads step false request?)
    (onwards : ∀ between,
      between.Proper
      → between.awaits = false
      → Leads (next between) opens (between.request?.bind act))
    : Leads (step >>= next) opens (request?.bind act) := by
  cases leads with
  | refused => exact .refused
  | taken proper ready means =>
      subst means
      exact onwards _ proper ready

theorem give_of_mem {flag : Flag} (given : flag ∈ intake.given)
    : intake.give flag = refuse (.repeatedFlag flag) := by
  simp [give, given]

theorem give_of_not_mem {flag : Flag} (new : flag ∉ intake.given)
    : intake.give flag = .ok { intake with given := intake.given ++ [flag] } := by
  simp [give, new]

theorem checked_give {flag : Flag} {part : Part} (proper : intake.Proper)
    (pending : intake.pending = none) (valueless : flag ≠ .prompt)
    (adds : intake.request.add? part
      = if flag ∈ intake.given then none
        else some ({ intake with given := intake.given ++ [flag] } : Intake).request)
    : Checked (intake.give flag) (intake.request.add? part) := by
  rw [adds]
  by_cases given : flag ∈ intake.given
  · rw [give_of_mem given, if_pos given]
    exact .refused
  · rw [give_of_not_mem given, if_neg given]
    refine .settled (.of_settled ?_ pending) pending
    simpa [valueless.symm] using proper.prompted

theorem checked_givePrompt (proper : intake.Proper) (pending : intake.pending = none)
    (value : String)
    : Checked (intake.givePrompt value) (intake.request.add? (.prompt value)) := by
  have prompted := proper.prompted
  unfold givePrompt
  by_cases given : .prompt ∈ intake.given
  · have there : intake.prompt.isSome = true := by simpa [given] using prompted.symm
    have none : intake.request.add? (.prompt value) = none := by
      simp [EditRequest.add?, request, there]
    rw [give_of_mem given, none]
    exact .refused
  · have missing : intake.prompt.isSome = false := by simpa [given] using prompted.symm
    have added : intake.request.add? (.prompt value)
        = some ({ intake with given := intake.given ++ [.prompt], prompt := some value }
          : Intake).request := by
      simp [EditRequest.add?, request, missing]
    rw [give_of_not_mem given, added]
    exact .settled (.of_settled (by simp) pending) pending

/-- What is pending passes its check exactly if it can be added. -/
theorem checked_settle (proper : intake.Proper) (ready : intake.awaits = false)
    : Checked intake.settle intake.request? := by
  have settled : ({ intake with pending := none } : Intake).Proper :=
    .of_settled proper.prompted rfl
  unfold settle Intake.request?
  rcases pending : intake.pending with _ | (value? | name)
  · exact .settled settled rfl
  · rcases value? with _ | value
    · simp [awaits, pending] at ready
    · exact checked_givePrompt settled rfl value
  · by_cases empty : name.isEmpty = true
    · simpa [EditRequest.add?, request, empty] using .refused
    -- That there is no other file has been checked when the word was taken.
    · have fresh : intake.file = none := proper.single pending
      have next : ({ intake with pending := none, file := some name } : Intake).Proper :=
        .of_settled proper.prompted rfl
      simpa [EditRequest.add?, request, empty, fresh] using Checked.settled next rfl

/-- An option without a value adds its part. -/
theorem takes_option {flag : Flag} {part : Part} (proper : intake.Proper)
    (ready : intake.awaits = false)
    (named : flag = .ignoreCase ∧ part = .ignoreCase ∨ flag = .debug ∧ part = .debug)
    (command long)
    : Leads (intake.take command long flag) false
      (intake.request?.bind (EditRequest.add? · part)) := by
  rcases named with ⟨rfl, rfl⟩ | ⟨rfl, rfl⟩
  all_goals
    refine (checked_settle proper ready).bind ?_
    intro settled proper pending _
    exact (checked_give proper pending (by decide) (by simp [EditRequest.add?, request])).leads

theorem takes_prompt (proper : intake.Proper) (ready : intake.awaits = false) (command long)
    : Leads (intake.take command long .prompt) true intake.request? := by
  rw [← Option.bind_fun_some intake.request?]
  refine (checked_settle proper ready).bind ?_
  intro settled proper pending _
  exact .taken ⟨proper.prompted, fun pending => nomatch pending⟩ rfl rfl

theorem takes_value (proper : intake.Proper) (ready : intake.awaits = false) (value)
    : Leads (intake.takeValue value) false
      (intake.request?.bind (EditRequest.add? · (.prompt value))) := by
  refine (checked_settle proper ready).bind ?_
  intro settled proper pending _
  exact (checked_givePrompt proper pending value).leads

/-- A file has been taken, checked or not. -/
def hasFile (intake : Intake) : Bool :=
  intake.file.isSome ||
    match intake.pending with
    | some (.file _) => true
    | _ => false

theorem takeOperand_of_hasFile (there : intake.hasFile = true) (separated name)
    : ∃ fault, intake.takeOperand separated name = refuse fault := by
  unfold takeOperand
  change ∃ fault, (if intake.hasFile = true then _ else _) = _
  rw [if_pos there]
  split
  · exact ⟨_, rfl⟩
  · split <;> exact ⟨_, rfl⟩

theorem takeOperand_of_not_hasFile (missing : intake.hasFile = false) (separated name)
    : intake.takeOperand separated name
      = intake.settle >>= fun settled => .ok { settled with pending := some (.file name) } := by
  unfold takeOperand
  change (if intake.hasFile = true then _ else _) = _
  rw [if_neg (Bool.eq_false_iff.mp missing)]
  rfl

theorem hasFile_of_takeOperand {separated : Bool} {name : String} {last : Intake}
    (taken : intake.takeOperand separated name = .ok last)
    : last.hasFile = true := by
  rcases there : intake.hasFile with _ | _
  · rw [takeOperand_of_not_hasFile there] at taken
    obtain ⟨settled, _, taken⟩ := bind_eq_ok_iff.mp taken
    obtain rfl := Except.ok.inj taken
    simp [hasFile]
  · obtain ⟨fault, refused⟩ := takeOperand_of_hasFile there separated name
    rw [refused] at taken
    contradiction

/-- What is pending is part of the request. -/
theorem isSome_file_of_request? {request : EditRequest} (means : intake.request? = some request)
    : request.file.isSome = intake.hasFile := by
  rcases pending : intake.pending with _ | ((_ | value) | name) <;>
    simp only [Intake.request?, pending, EditRequest.add?] at means
  · simp [← Option.some.inj means, hasFile, pending, Intake.request]
  · simp [← Option.some.inj means, hasFile, pending, Intake.request]
  · split at means
    · contradiction
    · simp [← Option.some.inj means, hasFile, pending, Intake.request]
  · split at means
    · contradiction
    · simp [← Option.some.inj means, hasFile, pending]

/-- A second file is refused at once. -/
theorem takes_operand (proper : intake.Proper) (ready : intake.awaits = false) (separated name)
    : Leads (intake.takeOperand separated name) false
      (intake.request?.bind (EditRequest.add? · (.file name))) := by
  rcases there : intake.hasFile with _ | _
  · rw [takeOperand_of_not_hasFile there]
    refine (checked_settle proper ready).bind ?_
    intro settled proper _ means
    have fresh : settled.file = none := by
      simpa [there, request] using isSome_file_of_request? means
    exact .taken ⟨proper.prompted, fun _ => fresh⟩ rfl rfl
  · obtain ⟨fault, refused⟩ := takeOperand_of_hasFile there separated name
    have none : (intake.request?.bind (EditRequest.add? · (.file name))) = none := by
      rw [Option.bind_eq_none_iff]
      intro request means
      simp [EditRequest.add?, isSome_file_of_request? means, there]
    rw [refused, none]
    exact .refused

end Intake

variable {intake : Intake}

theorem settle_of_awaits (awaits : intake.awaits = true)
    : intake.settle = refuse (.missingValue Flag.prompt.label) := by
  have pending : intake.pending = some (.prompt none) := by simpa [Intake.awaits] using awaits
  simp only [Intake.settle, pending]

/-- Where a prompt is to come nothing is taken that has to settle first. -/
theorem not_settled_of_awaits (awaits : intake.awaits = true) (next : Intake → Step)
    (last : Intake)
    : intake.settle >>= next ≠ .ok last := by
  rw [settle_of_awaits awaits]
  exact nofun

theorem takeLong_of_awaits (awaits : intake.awaits = true) (name value) (last : Intake)
    : intake.takeLong programName editFlags name value ≠ .ok last := by
  intro taken
  unfold Intake.takeLong at taken
  split at taken
  · contradiction
  · exact not_settled_of_awaits awaits _ last taken
  · split at taken
    · exact not_settled_of_awaits awaits _ last taken
    · contradiction

theorem takeLetters_of_awaits (awaits : intake.awaits = true) {letters : List Char}
    (present : letters ≠ []) (last : Intake)
    : Intake.takeLetters programName editFlags letters intake ≠ .ok last := by
  intro taken
  rcases letters with _ | ⟨letter, letters⟩
  · contradiction
  rw [Intake.takeLetters] at taken
  split at taken
  · contradiction
  split at taken
  · exact not_settled_of_awaits awaits _ last taken
  · obtain ⟨between, taken, _⟩ := bind_eq_ok_iff.mp taken
    exact not_settled_of_awaits awaits _ between taken

theorem takeOperand_of_awaits (awaits : intake.awaits = true) (separated name) (last : Intake)
    : intake.takeOperand separated name ≠ .ok last := by
  intro taken
  rcases there : intake.hasFile with _ | _
  · rw [Intake.takeOperand_of_not_hasFile there] at taken
    exact not_settled_of_awaits awaits _ last taken
  · obtain ⟨fault, refused⟩ := Intake.takeOperand_of_hasFile there separated name
    rw [refused] at taken
    contradiction

/-- If the step ends the command line early, it is not in order to edit. -/
def EndsUnedited {α : Type} (step : Except Invocation α) : Prop :=
  ∀ request, step ≠ .error (.edit request)

variable {α β : Type}

theorem EndsUnedited.bind {step : Except Invocation α} {next : α → Except Invocation β}
    (first : EndsUnedited step) (second : ∀ between, EndsUnedited (next between))
    : EndsUnedited (step >>= next) := by
  intro request ended
  cases step with
  | error invocation => exact first request (by simpa [Bind.bind, Except.bind] using ended)
  | ok between => exact second between request ended

theorem endsUnedited_ok (value : α) : EndsUnedited (.ok value : Except Invocation α) := nofun

theorem endsUnedited_refuse (fault : UsageFault)
    : EndsUnedited (refuse fault : Except Invocation α) :=
  nofun

theorem endsUnedited_give (intake : Intake) (flag : Flag) : EndsUnedited (intake.give flag) := by
  unfold Intake.give
  split
  · exact endsUnedited_refuse _
  · exact endsUnedited_ok _

theorem endsUnedited_givePrompt (intake : Intake) (value : String)
    : EndsUnedited (intake.givePrompt value) :=
  (endsUnedited_give intake .prompt).bind fun _ => endsUnedited_ok _

theorem endsUnedited_settle (intake : Intake) : EndsUnedited intake.settle := by
  unfold Intake.settle
  dsimp only
  split
  · exact endsUnedited_ok _
  · exact endsUnedited_refuse _
  · exact endsUnedited_givePrompt _ _
  · split
    · exact endsUnedited_refuse _
    · exact endsUnedited_ok _

theorem endsUnedited_take (intake : Intake) (command long flag)
    : EndsUnedited (intake.take command long flag) := by
  refine (endsUnedited_settle intake).bind fun settled => ?_
  cases flag with
  | help | version => nofun
  | prompt => exact endsUnedited_ok _
  | _ => exact endsUnedited_give settled _

theorem endsUnedited_takeLong (intake : Intake) (command flags name value)
    : EndsUnedited (intake.takeLong command flags name value) := by
  unfold Intake.takeLong
  split
  · exact endsUnedited_refuse _
  · exact endsUnedited_take _ _ _ _
  · split
    · exact (endsUnedited_settle intake).bind fun _ => endsUnedited_givePrompt _ _
    · exact endsUnedited_refuse _

theorem endsUnedited_takeLetters (command flags) (letters : List Char) (intake : Intake)
    : EndsUnedited (Intake.takeLetters command flags letters intake) := by
  induction letters generalizing intake with
  | nil => exact endsUnedited_ok _
  | cons letter letters ih =>
      rw [Intake.takeLetters]
      split
      · exact endsUnedited_refuse _
      split
      · exact (endsUnedited_settle intake).bind fun _ => endsUnedited_givePrompt _ _
      · exact (endsUnedited_take _ _ _ _).bind ih

theorem endsUnedited_takeOperand (intake : Intake) (separated name)
    : EndsUnedited (intake.takeOperand separated name) := by
  rcases there : intake.hasFile with _ | _
  · rw [Intake.takeOperand_of_not_hasFile there]
    exact (endsUnedited_settle intake).bind fun _ => endsUnedited_ok _
  · obtain ⟨fault, refused⟩ := Intake.takeOperand_of_hasFile there separated name
    exact refused ▸ endsUnedited_refuse fault

theorem endsUnedited_operands (operands : List String) (intake : Intake)
    : EndsUnedited (operands.foldlM (Intake.takeOperand true) intake) := by
  induction operands generalizing intake with
  | nil => exact endsUnedited_ok _
  | cons operand operands ih => exact (endsUnedited_takeOperand intake true operand).bind ih

theorem endsUnedited_readSettingsFlags (arguments : List String) (intake : Intake)
    : EndsUnedited (readSettingsFlags arguments intake) := by
  induction arguments generalizing intake with
  | nil => exact endsUnedited_ok _
  | cons argument arguments ih =>
      rw [readSettingsFlags.eq_def]
      dsimp only
      split
      · split
        · exact endsUnedited_ok _
        · exact endsUnedited_refuse _
      · exact (endsUnedited_takeLong _ _ _ _ _).bind ih
      · exact (endsUnedited_takeLetters _ _ _ _).bind ih
      · exact endsUnedited_refuse _

theorem endsUnedited_readSettings (arguments : List String)
    : EndsUnedited (readSettings arguments) := by
  refine (endsUnedited_readSettingsFlags arguments {}).bind fun intake => ?_
  unfold SettingsView.ofFlags
  split
  · exact endsUnedited_ok _
  · exact endsUnedited_ok _
  · exact endsUnedited_ok _
  · exact endsUnedited_refuse _

theorem readHelp_ne_edit (names : List String) (request : EditRequest)
    : readHelp names ≠ .edit request := by
  rcases names with _ | ⟨name, names⟩
  · simp [readHelp]
  · cases command : isCommand name <;> cases names <;> simp [readHelp, command]

theorem endsUnedited_readWords (words : List String) (intake : Intake)
    : EndsUnedited (readWords words intake) := by
  induction words generalizing intake with
  | nil => exact endsUnedited_settle intake
  | cons word words ih =>
      rw [readWords]
      split
      · refine (endsUnedited_readSettings words).bind fun view => ?_
        exact (endsUnedited_settle intake).bind fun _ => nofun
      split
      · intro request ended
        exact readHelp_ne_edit words request (Except.error.inj ended)
      split
      · exact (endsUnedited_operands words intake).bind endsUnedited_settle
      · exact (endsUnedited_takeLong _ _ _ _ _).bind ih
      · exact (endsUnedited_takeLetters _ _ _ _).bind ih
      · split
        · exact ih _
        · exact (endsUnedited_takeOperand _ _ _).bind ih

end LineEditor.CommandLine
