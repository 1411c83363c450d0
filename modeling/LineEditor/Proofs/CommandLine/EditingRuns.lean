import LineEditor.CommandLine.Program
import LineEditor.Proofs.CommandLine.EditRequests
import LineEditor.Proofs.CommandLine.LoadedSettings
import LineEditor.Proofs.Session.EarlierReports

/-! Runs of the program that edit. Such a run is that of a session with the settings in effect, or it
ends at once because the settings cannot be used.
-/

namespace LineEditor

open Text (decode?)

/-- A prompt that settings may have: a short one on one line. -/
structure Settings.Usable (settings : Settings) : Prop where
  short : settings.prompt.length ≤ 32
  unbroken : '\n' ∉ settings.prompt.toList ∧ '\r' ∉ settings.prompt.toList

theorem Settings.fault?_eq_none_iff {settings : Settings}
    : settings.fault? = none ↔ settings.Usable := by
  have unbroken : (settings.prompt.toList.any fun c => c = '\n' || c = '\r') = false
      ↔ '\n' ∉ settings.prompt.toList ∧ '\r' ∉ settings.prompt.toList := by
    rw [List.any_eq_false]
    constructor
    · intro none
      exact ⟨fun member => none _ member rfl, fun member => none _ member rfl⟩
    · rintro ⟨newline, carriage⟩ c member found
      rcases (by simpa using found : c = '\n' ∨ c = '\r') with rfl | rfl
      · exact newline member
      · exact carriage member
  unfold fault? promptLimit
  constructor
  · intro faultless
    by_cases long : 32 < settings.prompt.length
    · simp [long] at faultless
    · refine ⟨Nat.not_lt.mp long, unbroken.mp ?_⟩
      rcases broken : settings.prompt.toList.any fun c => c = '\n' || c = '\r' with _ | _
      · rfl
      · simp [long, broken] at faultless
  · rintro ⟨short, whole⟩
    have short : ¬32 < settings.prompt.length := Nat.not_lt.mpr short
    simp [short, unbroken.mpr whole]

/-- The program's folder once its settings are loaded. -/
def Home.loaded (home : Home) (content : ByteArray) : Folder :=
  { home.contents with settings := some content }

namespace CommandLine

/-- The session that a request starts with settings: patterns ignore case if either asks for it, the
prompt of the request comes before the one of the settings, and the file is opened first.
-/
def EditRequest.session (request : EditRequest) (settings : Settings) (world : World) : Session :=
  let start : Session := {
    context := { ignoreCase := request.ignoreCase || settings.ignoreCase }
    world := world
    prompt :=
      match request.prompt with
      | some prompt => some prompt
      | none => if settings.showPrompt then some settings.prompt else none
  }
  match request.file with
  | none => start
  | some path => start.open path

/-- The program is asked to edit, with settings that can be loaded. -/
structure Edits (environment : Environment) (home : Home) (request : EditRequest)
    (settings : Settings) (content : ByteArray)
    : Prop where
  asked : Invocation.ofArguments environment.arguments = .edit request
  loads : home.contents.Loads settings content

variable {environment : Environment} {home : Home} {world : World} {request : EditRequest}
  {settings : Settings} {content : ByteArray} {fault : Settings.Fault}

/-- What comes of opening the log once the settings are loaded. -/
def EditRequest.noted (request : EditRequest) (environment : Environment) (home : Home)
    (settings : Settings) (content : ByteArray)
    : LogStart :=
  request.startLog environment settings (home.loaded content)

theorem Edits.prepare_eq (edits : Edits environment home request settings content)
    : prepare environment home
      = ((request.prepare environment settings (home.loaded content)).1,
        .withFolder (request.prepare environment settings (home.loaded content)).2) := by
  unfold prepare
  rw [edits.asked]
  simp only [Invocation.prepare, edits.loads.load_eq, Invocation.needsFolder]
  rfl

/-- What was told before a session starts stands in front of its reports. -/
theorem setup_session (request : EditRequest) (settings : Settings) (warnings : String)
    (world : World)
    : Setup.session {
        ignoreCase := request.ignoreCase || settings.ignoreCase
        prompt := request.prompt.or settings.shownPrompt
        file := request.file
        warnings := warnings } world
      = (request.session settings world).behind warnings := by
  have prompt : request.prompt.or settings.shownPrompt
      = match request.prompt with
        | some prompt => some prompt
        | none => if settings.showPrompt then some settings.prompt else none := by
    cases request.prompt <;> rfl
  unfold Setup.session EditRequest.session
  rw [prompt]
  cases request.file with
  | none => simp [Session.behind]
  | some path =>
      dsimp only
      rw [← Session.open_behind]
      simp [Session.behind]

/-- Settings that cannot be used end the run before anything is edited. -/
theorem Edits.run_of_fault (edits : Edits environment home request settings content)
    (faulty : settings.fault? = some fault)
    : run environment world home = {
        status := 1
        output := ""
        diagnostics := (StartFault.badSettings fault).message
        files := world.files
        home := .withFolder (home.loaded content) } := by
  have prepared : prepare environment home
      = (.fail (.badSettings fault), .withFolder (home.loaded content)) := by
    rw [edits.prepare_eq]
    simp [EditRequest.prepare, faulty]
  simp only [run, prepared, Decision.fail]

/-- With settings that can be used the run is one of a session, behind what is told of the log. -/
theorem Edits.run_of_usable (edits : Edits environment home request settings content)
    (faultless : settings.fault? = none)
    (goesOn : (request.noted environment home settings content).crashes = false)
    : run environment world home = {
        status := 0
        output := (request.session settings world).run.output
        diagnostics := (request.noted environment home settings content).warnings
          ++ (request.session settings world).run.diagnostics
        files := (request.session settings world).run.world.files
        home := .withFolder (request.noted environment home settings content).folder } := by
  have prepared : prepare environment home
      = (.edit {
          ignoreCase := request.ignoreCase || settings.ignoreCase
          prompt := request.prompt.or settings.shownPrompt
          file := request.file
          warnings := (request.noted environment home settings content).warnings },
        .withFolder (request.noted environment home settings content).folder) := by
    rw [edits.prepare_eq]
    unfold EditRequest.noted at goesOn ⊢
    simp [EditRequest.prepare, faultless, goesOn]
  simp only [run, prepared, setup_session, Session.run_behind]
  rfl

/-- A crash of the reader of the filter ends the run before anything is edited. -/
theorem Edits.run_of_crash (edits : Edits environment home request settings content)
    (faultless : settings.fault? = none)
    (crashes : (request.noted environment home settings content).crashes = true)
    : run environment world home = {
        status := 101
        output := ""
        diagnostics := (request.noted environment home settings content).warnings
        files := world.files
        home := .withFolder (request.noted environment home settings content).folder } := by
  have prepared : prepare environment home
      = (.crash (request.noted environment home settings content).warnings,
        .withFolder (request.noted environment home settings content).folder) := by
    rw [edits.prepare_eq]
    unfold EditRequest.noted at crashes ⊢
    simp [EditRequest.prepare, faultless, crashes]
  simp only [run, prepared]

/-- A settings file that is no text ends the run, and stays as it is. -/
theorem run_of_unreadable (asked : Invocation.ofArguments environment.arguments = .edit request)
    (unreadable : home.contents.load = none)
    : run environment world home = {
        status := 1
        output := ""
        diagnostics := (StartFault.unreadableSettings (settingsPath environment.homePath)).message
        files := world.files
        home := .withFolder home.contents } := by
  have prepared : prepare environment home
      = (.fail (.unreadableSettings (settingsPath environment.homePath)),
        .withFolder home.contents) := by
    unfold prepare
    rw [asked]
    simp only [Invocation.prepare, unreadable, Invocation.needsFolder]
    rfl
  simp only [run, prepared, Decision.fail]

theorem noted_of_unlogged (unasked : request.debug = false) (unset : settings.debug = false)
    (unfiltered : environment.logFilter = "")
    : request.noted environment home settings content = { folder := home.loaded content } := by
  simp [EditRequest.noted, EditRequest.startLog, unasked, unset, unfiltered]

/-- A command line that asks to edit spells its request. Where the settings can be loaded and used
and nothing asks for a log, the run is that of the session with the settings in effect, and ends
well. Where they cannot, nothing is edited, whatever the command line says. The files that the
session works with are apart from the home directory.
-/
theorem run_with_settings_in_effect
    (asked : Invocation.ofArguments environment.arguments = .edit request) (home : Home)
    (input : ByteArray) (files : FileTree)
    : (∃ parts,
          Spells false environment.arguments parts
          ∧ parts.foldlM EditRequest.add? {} = some request)
      ∧ (∀ settings content,
          home.contents.Loads settings content
          → settings.Usable
          → request.debug = false
          → settings.debug = false
          → environment.logFilter = ""
          → let last := (request.session settings ⟨.ofBytes input, files⟩).run
            run environment ⟨.ofBytes input, files⟩ home = {
              status := 0
              output := last.output
              diagnostics := last.diagnostics
              files := last.world.files
              home := .withFolder (home.loaded content) })
      ∧ ((∃ content, home.contents.settings = some content ∧ decode? content.toList = none)
            ∨ (∃ settings content,
              home.contents.Loads settings content ∧ ¬settings.Usable)
          → let report := run environment ⟨.ofBytes input, files⟩ home
            report.status = 1 ∧ report.output = "" ∧ report.files = files) := by
  refine ⟨ofArguments_eq_edit_iff.mp asked, ?_, ?_⟩
  · intro settings content loads usable unasked unset unfiltered
    have edits : Edits environment home request settings content := ⟨asked, loads⟩
    have faultless := Settings.fault?_eq_none_iff.mpr usable
    have unlogged : request.noted environment home settings content = _ :=
      noted_of_unlogged unasked unset unfiltered
    have goesOn : (request.noted environment home settings content).crashes = false := by
      rw [unlogged]
    simp only [edits.run_of_usable faultless goesOn, unlogged, String.empty_append]
  · rintro (unreadable | ⟨settings, content, loads, unusable⟩)
    · have unloaded := Folder.load_eq_none_iff.mpr unreadable
      simp only [run_of_unreadable asked unloaded, and_self]
    · have edits : Edits environment home request settings content := ⟨asked, loads⟩
      obtain ⟨fault, faulty⟩ := Option.ne_none_iff_exists'.mp
        fun faultless => unusable (Settings.fault?_eq_none_iff.mp faultless)
      simp only [edits.run_of_fault faulty, and_self]

/-- A prompt on the command line comes before the one of the settings, and a session whose commands
all fail ends well. A prompt of the settings that is on two lines ends the run even so.
-/
theorem run_with_settings_in_effect_twice
    : let environment : Environment := { arguments := ["-ip=> ", "f"], homePath := "h" }
      let home (text : String) : Home := .withFolder { settings := some text.toUTF8 }
      let files : FileTree := {
        entries := [(["d"], .directory), (["f"], .file "a\n".toUTF8)] }
      let run (text : String) := run environment ⟨.ofBytes "x\nw d\np".toUTF8, files⟩ (home text)
      run "[session]\nshow_prompt = true\n" = {
          status := 0
          output := "> > > a\n> "
          diagnostics :=
            "?  x: unrecognised command\n?  d: Is a directory (os error 21)\n"
          files := files
          home := home "[session]\nshow_prompt = true\n" }
        ∧ (run "[session]\nprompt = \"\\n\"\n").status = 1
        ∧ (run "[session]\nprompt = \"\\n\"\n").output = ""
        ∧ (run "[session]\nprompt = \"\\n\"\n").files = files := by
  intro environment home files run
  let request : EditRequest := { file := some "f", prompt := some "> ", ignoreCase := true }
  have asked : Invocation.ofArguments environment.arguments = .edit request := by decide +kernel
  have loads {text : String} {settings : Settings} (read : Settings.read text = some settings)
      : (home text).contents.Loads settings text.toUTF8 :=
    .written rfl (Text.decode?_eq_some_iff.mpr rfl) read
  have shown := loads (show Settings.read "[session]\nshow_prompt = true\n"
    = some { showPrompt := true } by decide +kernel)
  have broken := loads (show Settings.read "[session]\nprompt = \"\\n\"\n"
    = some { prompt := "\n" } by decide +kernel)
  obtain ⟨_, edited, _⟩ := run_with_settings_in_effect asked
    (home "[session]\nshow_prompt = true\n") "x\nw d\np".toUTF8 files
  obtain ⟨_, _, refused⟩ := run_with_settings_in_effect asked
    (home "[session]\nprompt = \"\\n\"\n") "x\nw d\np".toUTF8 files
  refine ⟨(edited _ _ shown ⟨by decide, by decide⟩ rfl rfl rfl).trans ?_, ?_⟩
  · decide +kernel
  · exact refused (.inr ⟨_, _, broken, fun usable => usable.unbroken.1 (by decide)⟩)

end CommandLine

end LineEditor
