import LineEditor.CommandLine.Program
import LineEditor.Proofs.CommandLine.LoadedSettings
import LineEditor.Proofs.Toml.WrittenDocuments

/-! Settings that are shown. The document that they are shown as is read as the same settings, so a
settings file that holds it means them, and they are shown as it again.
-/

namespace LineEditor

open Toml (Gives Makes Statement headerLine ofLines pairLine writeText)

namespace Settings

/-- The lines of the document of settings. -/
def lines (settings : Settings) : List (List Char) :=
  [headerLine "session",
   pairLine "prompt" (writeText settings.prompt.toList),
   pairLine "show_prompt" (word settings.showPrompt).toList,
   [],
   headerLine "regex",
   pairLine "case_insensitive" (word settings.ignoreCase).toList,
   [],
   headerLine "logging",
   pairLine "debug" (word settings.debug).toList]

/-- What the lines of the document state. -/
def statements (settings : Settings) : List Statement :=
  [.header ⟨[], "session"⟩,
   .pair ⟨[], "prompt"⟩ (.text settings.prompt),
   .pair ⟨[], "show_prompt"⟩ (.boolean settings.showPrompt),
   .header ⟨[], "regex"⟩,
   .pair ⟨[], "case_insensitive"⟩ (.boolean settings.ignoreCase),
   .header ⟨[], "logging"⟩,
   .pair ⟨[], "debug"⟩ (.boolean settings.debug)]

theorem gives_word (value : Bool) : Gives (word value).toList (.boolean value) := by
  cases value
  · exact Toml.gives_false
  · exact Toml.gives_true

theorem render_toList (settings : Settings) : settings.render.toList = ofLines settings.lines := by
  have prompt
      : (String.ofList (writeText settings.prompt.toList)).toList
        = writeText settings.prompt.toList :=
    String.toList_ofList
  unfold render
  simp only [String.toList_append]
  rw [prompt]
  simp only [lines, Toml.ofLines_cons, headerLine, pairLine, List.append_assoc, List.cons_append]
  rfl

theorem makes_lines (settings : Settings) : Makes settings.lines settings.statements := by
  have prompt := Toml.gives_writeText settings.prompt.toList
  rw [String.ofList_toList] at prompt
  refine .line (Toml.states_headerLine (by decide)) ?_
  refine .line (Toml.states_pairLine (by decide) prompt) ?_
  refine .line (Toml.states_pairLine (by decide) (gives_word _)) (.empty ?_)
  refine .line (Toml.states_headerLine (by decide)) ?_
  refine .line (Toml.states_pairLine (by decide) (gives_word _)) (.empty ?_)
  refine .line (Toml.states_headerLine (by decide)) ?_
  exact .line (Toml.states_pairLine (by decide) (gives_word _)) .nil

theorem read_render (settings : Settings) : read settings.render = some settings := by
  have unmarked : (ofLines settings.lines).head? ≠ some '\uFEFF' := by
    simp [lines, Toml.ofLines_cons, headerLine]
  rw [read, settings.makes_lines.readDocument settings.render_toList unmarked]
  rfl

end Settings

/-- A settings file that holds what settings are shown as means them, and is left alone. -/
theorem Folder.load_render {folder : Folder} {settings : Settings}
    (holds : folder.settings = some settings.render.toUTF8)
    : folder.load = some (settings, folder) := by
  have decoded : Text.decode? settings.render.toUTF8.toList = some settings.render :=
    Text.decode?_eq_some_iff.mpr rfl
  have loads : folder.Loads settings settings.render.toUTF8 :=
    .written holds decoded settings.read_render
  rw [loads.load_eq, ← holds]

namespace CommandLine

variable {environment : Environment} {home : Home} {settings : Settings} {folder : Folder}

/-- Settings that can be loaded and used are shown as their document, and nothing else. -/
theorem run_showing (asked : Invocation.ofArguments environment.arguments = .settings .content)
    (loaded : home.contents.load = some (settings, folder)) (faultless : settings.fault? = none)
    (world : World)
    : run environment world home = {
        status := 0
        output := settings.render
        diagnostics := ""
        files := world.files
        home := .withFolder folder } := by
  have prepared
      : prepare environment home = (.finish 0 settings.render "", .withFolder folder) := by
    unfold prepare
    rw [asked]
    simp [Invocation.prepare, loaded, showSettings, faultless, Invocation.needsFolder]
  simp only [run, prepared]

/-- What settings are shown as is read as the same settings, whatever they are. Where the settings
that a home directory means can be used, the command that shows them writes a text that as a
settings file means the same settings, in any home directory, and is shown as the same text again.
-/
theorem shown_settings_load_back
    : (∀ settings : Settings, Settings.read settings.render = some settings)
      ∧ ∀ (environment : Environment) (home : Home) (settings : Settings) (folder : Folder)
          (world : World),
        Invocation.ofArguments environment.arguments = .settings .content
        → home.contents.load = some (settings, folder)
        → settings.fault? = none
        → let shown := run environment world home
          shown.status = 0
          ∧ shown.output = settings.render
          ∧ ∀ (again : Home) (world : World),
            again.contents.settings = some shown.output.toUTF8
            → again.contents.load = some (settings, again.contents)
              ∧ run environment world again = {
                status := 0
                output := shown.output
                diagnostics := ""
                files := world.files
                home := .withFolder again.contents } := by
  refine ⟨Settings.read_render, ?_⟩
  intro environment home settings folder world asked loaded faultless shown
  have first : shown.output = settings.render := by
    simp only [shown, run_showing asked loaded faultless]
  refine ⟨?_, first, ?_⟩
  · simp only [shown, run_showing asked loaded faultless]
  · intro again world holds
    rw [first] at holds ⊢
    have reloaded := Folder.load_render holds
    exact ⟨reloaded, run_showing asked reloaded faultless world⟩

/-- A prompt with a quote, a control and a backslash, in a file that says nothing else. -/
theorem shown_settings_load_back_escaped
    : let environment : Environment := { arguments := ["config", "--show"], homePath := "h" }
      let home (text : String) : Home := .withFolder { settings := some text.toUTF8 }
      let world : World := ⟨.ofBytes ⟨#[]⟩, {}⟩
      let shown := run environment world (home "[session]\nprompt = \"'\\u0007\\\\\"")
      shown.output
          = "[session]\nprompt = \"'\\u0007\\\\\"\nshow_prompt = false\n\n"
            ++ "[regex]\ncase_insensitive = false\n\n[logging]\ndebug = false\n"
        ∧ (run environment world (home shown.output)).output = shown.output := by
  intro environment home world shown
  let settings : Settings := { prompt := "'\x07\\" }
  have asked : Invocation.ofArguments environment.arguments = .settings .content := by
    decide +kernel
  have loads
      : (home "[session]\nprompt = \"'\\u0007\\\\\"").contents.Loads settings
        "[session]\nprompt = \"'\\u0007\\\\\"".toUTF8 :=
    .written rfl (Text.decode?_eq_some_iff.mpr rfl) (by decide +kernel)
  obtain ⟨-, output, again⟩ := shown_settings_load_back.2 environment
    (home "[session]\nprompt = \"'\\u0007\\\\\"") settings _ world asked loads.load_eq (by decide)
  refine ⟨output.trans (by decide +kernel), ?_⟩
  obtain ⟨-, reshown⟩ := again (home shown.output) world rfl
  rw [reshown]

end CommandLine

end LineEditor
