import LineEditor.Proofs.CommandLine.EditingRuns

/-! Runs that differ in their logs only. They do the same, but what is told when a log is opened
comes before all else on the diagnostic channel, and a filter that the reader crashes on ends a run
before it edits.
-/

namespace LineEditor

/-- A filter of which every directive that is read means something. -/
def LogFilter.Faultless (filter : String) : Prop :=
  ∀ directive ∈ LogFilter.readDirectives filter,
    directive = "" ∨ LogFilter.verdict directive = .accepted

theorem join_eq_empty_iff {texts : List String}
    : String.join texts = "" ↔ ∀ text ∈ texts, text = "" := by
  rw [← String.toList_inj, String.toList_join]
  simp

theorem LogFilter.warnings_eq_empty_iff {filter : String}
    : LogFilter.warnings filter = "" ↔ LogFilter.Faultless filter := by
  unfold warnings Faultless
  rw [join_eq_empty_iff, List.forall_mem_map]
  refine forall₂_congr fun directive among => ?_
  have read : verdict directive ≠ .crashed := by
    simpa using List.all_eq_true.mp List.all_takeWhile directive among
  cases found : verdict directive with
  | accepted => simp
  | ignored fault => simp
  | crashed => exact absurd found read

namespace CommandLine

/-- A run of the program that edits, with the settings that it loads. -/
structure EditingRun where
  environment : Environment
  home : Home
  request : EditRequest
  settings : Settings
  content : ByteArray
  edits : Edits environment home request settings content

namespace EditingRun

/-- What the run leaves. -/
def report (editing : EditingRun) (world : World) : Report :=
  run editing.environment world editing.home

/-- The run asks for a log: by an option, by a setting or by a filter for it. -/
def Logs (editing : EditingRun) : Prop :=
  editing.request.debug = true
  ∨ editing.settings.debug = true
  ∨ editing.environment.logFilter ≠ ""

instance (editing : EditingRun) : Decidable editing.Logs := inferInstanceAs (Decidable (_ ∨ _))

/-- What is told of the log: why it cannot be opened, or which directives of the filter are passed
over.
-/
def notice (editing : EditingRun) : String :=
  if editing.Logs then
    match editing.home.contents.logFault with
    | some fault =>
        "Warning: Could not create log file: Failed to open log file: "
          ++ logPath editing.environment.homePath ++ ": " ++ fault.message ++ "\n"
    | none => LogFilter.warnings editing.environment.logFilter
  else ""

/-- If the run asks for a log, it can be opened, and nothing in the filter is passed over. -/
def Silent (editing : EditingRun) : Prop :=
  editing.Logs
  → editing.home.contents.logFault = none
    ∧ LogFilter.Faultless editing.environment.logFilter

/-- The run opens a log with a filter that the reader crashes on. -/
def Crashes (editing : EditingRun) : Prop :=
  editing.Logs
  ∧ editing.home.contents.logFault = none
  ∧ LogFilter.crashes editing.environment.logFilter = true

instance (editing : EditingRun) : Decidable editing.Crashes := inferInstanceAs (Decidable (_ ∧ _))

/-- The program's folder once the log has been opened, if the run asks for one. -/
def folderLeft (editing : EditingRun) : Folder :=
  { editing.home.loaded editing.content with
    hasLog := editing.home.contents.hasLog
      || decide (editing.Logs ∧ editing.home.contents.logFault = none) }

/-- The runs differ at most in asking for a log, and in the content that the settings are read from.
-/
structure Alike (first second : EditingRun) : Prop where
  homePath : first.environment.homePath = second.environment.homePath
  request : first.request = { second.request with debug := first.request.debug }
  settings : first.settings = { second.settings with debug := first.settings.debug }
  folder : first.home.contents
    = { second.home.contents with settings := first.home.contents.settings }

variable {editing first second : EditingRun}

theorem notice_eq_empty_iff : editing.notice = "" ↔ editing.Silent := by
  unfold notice Silent
  by_cases logs : editing.Logs
  · cases fault : editing.home.contents.logFault <;> simp [logs, LogFilter.warnings_eq_empty_iff]
  · simp [logs]

/-- Opening the log tells the notice and leaves a log, if it can be opened. -/
theorem noted_eq (editing : EditingRun)
    : editing.request.noted editing.environment editing.home editing.settings editing.content
      = {
        warnings := editing.notice
        crashes := decide editing.Crashes
        folder := editing.folderLeft } := by
  have asked : (editing.request.debug || editing.settings.debug
      || !editing.environment.logFilter.isEmpty) = decide editing.Logs := by
    rw [Bool.eq_iff_iff, decide_eq_true_iff]
    simp [Logs, or_assoc]
  unfold EditRequest.noted EditRequest.startLog notice folderLeft Crashes
  rw [asked]
  by_cases logs : editing.Logs
  · rcases Option.eq_none_or_eq_some editing.home.contents.logFault with fault | ⟨_, fault⟩ <;>
      simp [logs, openLog, Home.loaded, fault]
  · simp [logs, Home.loaded]

theorem report_of_fault {fault : Settings.Fault} (faulty : editing.settings.fault? = some fault)
    (world : World)
    : editing.report world = {
        status := 1
        output := ""
        diagnostics := (StartFault.badSettings fault).message
        files := world.files
        home := .withFolder (editing.home.loaded editing.content) } :=
  editing.edits.run_of_fault faulty

theorem report_of_usable (faultless : editing.settings.fault? = none) (goesOn : ¬ editing.Crashes)
    (world : World)
    : editing.report world = {
        status := 0
        output := (editing.request.session editing.settings world).run.output
        diagnostics := editing.notice
          ++ (editing.request.session editing.settings world).run.diagnostics
        files := (editing.request.session editing.settings world).run.world.files
        home := .withFolder editing.folderLeft } := by
  have noted := editing.noted_eq
  rw [decide_eq_false goesOn] at noted
  have run : editing.report world = _ := editing.edits.run_of_usable faultless (by rw [noted])
  rwa [noted] at run

theorem report_of_crash (faultless : editing.settings.fault? = none) (crashes : editing.Crashes)
    (world : World)
    : editing.report world = {
        status := 101
        output := ""
        diagnostics := editing.notice
        files := world.files
        home := .withFolder editing.folderLeft } := by
  have noted := editing.noted_eq
  rw [decide_eq_true crashes] at noted
  have run : editing.report world = _ := editing.edits.run_of_crash faultless (by rw [noted])
  rwa [noted] at run

/-- A run with settings that can be used leaves the same folder whether it crashes or not. -/
theorem home_of_usable (faultless : editing.settings.fault? = none) (world : World)
    : (editing.report world).home = .withFolder editing.folderLeft := by
  by_cases crashes : editing.Crashes
  · rw [report_of_crash faultless crashes]
  · rw [report_of_usable faultless crashes]

theorem status_of_usable (faultless : editing.settings.fault? = none) (world : World)
    : (editing.report world).status = if editing.Crashes then 101 else 0 := by
  by_cases crashes : editing.Crashes
  · rw [report_of_crash faultless crashes, if_pos crashes]
  · rw [report_of_usable faultless crashes, if_neg crashes]

theorem Alike.fault?_eq (alike : first.Alike second)
    : first.settings.fault? = second.settings.fault? := by
  rw [alike.settings]
  rfl

theorem Alike.session_eq (alike : first.Alike second) (world : World)
    : first.request.session first.settings world
      = second.request.session second.settings world := by
  rw [alike.request, alike.settings]
  rfl

/-- Runs that differ in their logs only end the same exactly if the settings cannot be used or none of
them crashes on its filter or both do. Then they do the same and leave the same files. What they
leave in the home directory, which is apart from these files, differs at most in the settings, each
their own, and in the log. Where none crashes they tell the same exactly if the settings cannot be
used or the same is told of both logs; nothing is told of a log that can be opened if all of its
filter that is read means something.
-/
theorem Alike.reports (alike : first.Alike second) (world : World)
    : ((first.report world).status = (second.report world).status
        ↔ (first.settings.Usable → (first.Crashes ↔ second.Crashes)))
      ∧ ((first.settings.Usable → (first.Crashes ↔ second.Crashes))
        → (first.report world).output = (second.report world).output
          ∧ (first.report world).files = (second.report world).files)
      ∧ (first.report world).home.contents = {
          (second.report world).home.contents with
          settings := some first.content
          hasLog := (first.report world).home.contents.hasLog }
      ∧ (second.report world).home.contents.settings = some second.content
      ∧ ((first.settings.Usable → ¬ first.Crashes ∧ ¬ second.Crashes)
        → ((first.report world).diagnostics = (second.report world).diagnostics
          ↔ (first.settings.Usable → first.notice = second.notice)))
      ∧ (first.notice = "" ↔ first.Silent)
      ∧ (second.notice = "" ↔ second.Silent) := by
  have folder : first.home.loaded first.content
      = { second.home.loaded second.content with settings := some first.content } := by
    unfold Home.loaded
    rw [alike.folder]
  have same := alike.fault?_eq
  rw [← Settings.fault?_eq_none_iff]
  -- The settings have the same fault, as it is one of the prompt, or none.
  rcases faulty : first.settings.fault? with _ | fault
  · have faultless : second.settings.fault? = none := same ▸ faulty
    rw [home_of_usable faulty, home_of_usable faultless, status_of_usable faulty,
      status_of_usable faultless]
    refine ⟨?_, ?_, ?_, rfl, ?_, notice_eq_empty_iff, notice_eq_empty_iff⟩
    · by_cases crashes : first.Crashes <;> by_cases other : second.Crashes <;>
        simp [crashes, other]
    · intro both
      by_cases crashes : first.Crashes
      · have other := (both rfl).mp crashes
        rw [report_of_crash faulty crashes, report_of_crash faultless other]
        exact ⟨rfl, rfl⟩
      · have other := mt (both rfl).mpr crashes
        rw [report_of_usable faulty crashes, report_of_usable faultless other,
          alike.session_eq world]
        exact ⟨rfl, rfl⟩
    · simp only [Home.contents, Home.withFolder, Option.getD_some, folderLeft, folder]
    · intro neither
      obtain ⟨crashes, other⟩ := neither rfl
      rw [report_of_usable faulty crashes, report_of_usable faultless other,
        alike.session_eq world]
      simp
  · rw [report_of_fault faulty, report_of_fault (same ▸ faulty), folder]
    exact ⟨iff_of_true rfl nofun, fun _ => ⟨rfl, rfl⟩, rfl, rfl, fun _ => iff_of_true rfl nofun,
      notice_eq_empty_iff, notice_eq_empty_iff⟩

/-- A session with a file tells the same without a log and with one that is asked for in all three
ways.
-/
theorem Alike.reports_traced
    : ∃ first second : EditingRun,
        first.Alike second
        ∧ second.request.debug = true
        ∧ second.settings.debug = true
        ∧ second.environment.logFilter = "_=5,:=info"
        ∧ ∀ world,
          (first.report world).diagnostics = (second.report world).diagnostics
          ∧ (first.report world).output = (second.report world).output
          ∧ (first.report world).files = (second.report world).files := by
  let first : EditingRun := {
    environment := { arguments := ["-i", "f"], homePath := "h" }
    home := {}
    request := { file := some "f", ignoreCase := true }
    settings := {}
    content := Settings.template.toUTF8
    edits := ⟨by decide +kernel, .absent rfl⟩
  }
  let second : EditingRun := {
    environment := {
      arguments := ["f", "--debug", "-i"], logFilter := "_=5,:=info", homePath := "h" }
    home := .withFolder { settings := some "[logging]\ndebug = true\n".toUTF8 }
    request := { file := some "f", ignoreCase := true, debug := true }
    settings := { debug := true }
    content := "[logging]\ndebug = true\n".toUTF8
    edits := ⟨by decide +kernel,
      .written rfl (Text.decode?_eq_some_iff.mpr rfl) (by decide +kernel)⟩
  }
  have alike : first.Alike second := ⟨rfl, rfl, rfl, rfl⟩
  have silent : first.notice = second.notice := by
    have faultless : LogFilter.Faultless "_=5,:=info" := by
      unfold LogFilter.Faultless
      decide +kernel
    exact (if_neg (by decide)).trans (notice_eq_empty_iff.mpr fun _ => ⟨rfl, faultless⟩).symm
  have goesOn : ¬ first.Crashes := fun crashes => absurd crashes.1 (by decide)
  have reads : ¬ second.Crashes := by
    have read : LogFilter.crashes "_=5,:=info" = false := by decide +kernel
    exact fun crashes => absurd (read.symm.trans crashes.2.2) nofun
  refine ⟨first, second, alike, rfl, rfl, rfl, fun world => ?_⟩
  obtain ⟨_, done, _, _, diagnostics, _⟩ := alike.reports world
  obtain ⟨output, files⟩ := done fun _ => iff_of_false goesOn reads
  exact ⟨(diagnostics fun _ => ⟨goesOn, reads⟩).mpr fun _ => silent, output, files⟩

/-- A filter whose field has no pattern is told of on the diagnostic channel, where a run without a
log tells nothing.
-/
theorem Alike.reports_misread_filter
    : ∃ first second : EditingRun,
        first.Alike second
        ∧ first.environment = { arguments := [], homePath := "h" }
        ∧ second.environment = { arguments := [], logFilter := "[\x7ba=(\x7d]", homePath := "h" }
        ∧ (first.report ⟨.ofLines [], {}⟩).diagnostics = ""
        ∧ (second.report ⟨.ofLines [], {}⟩).diagnostics
          = "ignoring \x60[\x7ba=(\x7d]\x60: invalid field filter: error building NFA\n" := by
  let editing (filter : String) : EditingRun := {
    environment := { arguments := [], logFilter := filter, homePath := "h" }
    home := {}
    request := {}
    settings := {}
    content := Settings.template.toUTF8
    edits := ⟨ofArguments_eq_edit_iff.mpr ⟨[], .nil, rfl⟩, .absent rfl⟩
  }
  have faultless : Settings.fault? {} = none := by decide
  have unlogged : (editing "").notice = "" := if_neg (by decide)
  have misread : (editing "[\x7ba=(\x7d]").notice
      = "ignoring \x60[\x7ba=(\x7d]\x60: invalid field filter: error building NFA\n" := by
    refine (if_pos (by decide)).trans ?_
    decide +kernel
  have quiet : (EditRequest.session {} {} ⟨.ofLines [], {}⟩).run.diagnostics = "" := by
    decide +kernel
  have told (filter : String) (read : LogFilter.crashes filter = false)
      : ((editing filter).report ⟨.ofLines [], {}⟩).diagnostics
        = (editing filter).notice
          ++ (EditRequest.session {} {} ⟨.ofLines [], {}⟩).run.diagnostics := by
    have goesOn : ¬ (editing filter).Crashes :=
      fun crashes => absurd (read.symm.trans crashes.2.2) nofun
    exact congrArg Report.diagnostics (report_of_usable faultless goesOn _)
  refine ⟨editing "", editing "[\x7ba=(\x7d]", ⟨rfl, rfl, rfl, rfl⟩, rfl, rfl, ?_, ?_⟩
  · rw [told "" (by decide +kernel), unlogged, quiet, String.append_empty]
  · rw [told _ (by decide +kernel), misread, quiet, String.append_empty]

end EditingRun

end CommandLine

end LineEditor
