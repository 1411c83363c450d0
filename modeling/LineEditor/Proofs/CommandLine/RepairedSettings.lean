import LineEditor.CommandLine.Program
import LineEditor.Proofs.CommandLine.LoadedSettings

/-! Settings files that are repaired. Loading settings writes a file that is missing or malformed
anew from the template and leaves every other one alone, so that loading again changes nothing.
-/

namespace LineEditor

open Text (decode?)

namespace Folder

variable {folder : Folder} {settings : Settings} {content : ByteArray}

/-- Settings that can be loaded mean something, by cases on the file, its text and what it says. -/
theorem exists_loads (loadable : folder.load ≠ none)
    : ∃ settings content, folder.Loads settings content := by
  rcases there : folder.settings with _ | content
  · exact ⟨_, _, .absent there⟩
  · rcases decoded : decode? content.toList with _ | text
    · exact absurd (load_eq_none_iff.mpr ⟨content, there, decoded⟩) loadable
    · rcases read : Settings.read text with _ | settings
      · exact ⟨_, _, .malformed there decoded read⟩
      · exact ⟨_, _, .written there decoded read⟩

/-- Once settings are loaded, the file that is there then means the same settings. -/
theorem Loads.again (loads : folder.Loads settings content)
    : ({ folder with settings := some content } : Folder).Loads settings content := by
  cases loads with
  | absent | malformed => exact .written rfl decode?_template read_template
  | written _ decoded read => exact .written rfl decoded read

end Folder

namespace Home

/-- Loads the settings of a home directory. The program's folder is made if it is missing. -/
def load (home : Home) : Option Settings × Home :=
  match home.contents.load with
  | none => (none, .withFolder home.contents)
  | some (settings, folder) => (some settings, .withFolder folder)

/-- The home directory with the template as its settings file. -/
def repaired (home : Home) : Home :=
  .withFolder { home.contents with settings := some Settings.template.toUTF8 }

variable {home after : Home} {settings : Settings} {content : ByteArray} {text : String}

/-- A home directory with a settings file has the program's folder. -/
theorem withFolder_contents (there : home.contents.settings = some content)
    : withFolder home.contents = home := by
  obtain ⟨_ | folder⟩ := home
  · cases there
  · rfl

theorem load_of_loads (loads : home.contents.Loads settings content)
    : home.load
      = (some settings, .withFolder { home.contents with settings := some content }) := by
  rw [load, loads.load_eq]

theorem load_of_missing (missing : home.contents.settings = none)
    : home.load = (some {}, home.repaired) :=
  load_of_loads (.absent missing)

theorem load_of_malformed (there : home.contents.settings = some content)
    (decoded : decode? content.toList = some text) (unread : Settings.read text = none)
    : home.load = (some {}, home.repaired) :=
  load_of_loads (.malformed there decoded unread)

/-- A settings file that makes settings is left alone. -/
theorem load_of_read (there : home.contents.settings = some content)
    (decoded : decode? content.toList = some text) (read : Settings.read text = some settings)
    : home.load = (some settings, home) := by
  rw [load_of_loads (.written there decoded read), ← there, withFolder_contents there]

/-- A settings file that is no text is left alone. -/
theorem load_of_undecodable (there : home.contents.settings = some content)
    (undecodable : decode? content.toList = none)
    : home.load = (none, home) := by
  have unloaded : home.contents.load = none :=
    Folder.load_eq_none_iff.mpr ⟨content, there, undecodable⟩
  rw [load, unloaded, withFolder_contents there]

/-- Settings can be loaded unless their file is no text. -/
theorem isSome_load_iff
    : home.load.1.isSome = true
      ↔ ∀ content,
        home.contents.settings = some content → (decode? content.toList).isSome = true := by
  cases unloaded : home.contents.load with
  | none =>
      obtain ⟨content, there, undecodable⟩ := Folder.load_eq_none_iff.mp unloaded
      refine iff_of_false ?_ fun decodable => ?_
      · simp [load, unloaded]
      · simpa [undecodable] using decodable content there
  | some loaded =>
      refine iff_of_true (by simp [load, unloaded]) fun content there => ?_
      refine Option.isSome_iff_ne_none.mpr fun undecodable => ?_
      simpa [unloaded] using Folder.load_eq_none_iff.mpr ⟨content, there, undecodable⟩

/-- Settings that were loaded are loaded again, and nothing changes any more: what the file was
repaired to means the defaults, and any other file was left alone.
-/
theorem load_load (loaded : home.load = (some settings, after))
    : after.load = (some settings, after) := by
  have loadable : home.contents.load ≠ none := by
    intro unloaded
    simp [load, unloaded] at loaded
  obtain ⟨found, content, loads⟩ := Folder.exists_loads loadable
  rw [load_of_loads loads] at loaded
  cases loaded
  exact load_of_loads loads.again

end Home

namespace CommandLine

/-- A command line that asks for the settings shows those that are loaded, and leaves the home
directory as loading does.
-/
theorem prepare_of_showing {environment : Environment}
    (asked : Invocation.ofArguments environment.arguments = .settings .content) (home : Home)
    : prepare environment home
      = (home.load.1.elim
          (.fail (.unreadableSettings (settingsPath environment.homePath)))
          (showSettings (settingsPath environment.homePath) false),
        home.load.2) := by
  unfold prepare Home.load
  rw [asked]
  simp only [Invocation.prepare, Invocation.needsFolder, if_true]
  cases home.contents.load <;> rfl

end CommandLine

namespace Home

open CommandLine (Environment Invocation prepare settingsPath showSettings)

/-- Loading settings repairs their file once. It fails exactly if the file is no text, and changes
nothing then; a file that makes settings is left alone, and one that is missing or makes none is
written from the template and means the defaults. Loading them again gives the same settings and
changes nothing. What is shown of the settings is what is loaded so.
-/
theorem load_repairs_once (home : Home)
    : (home.load.1.isSome = true
          ↔ ∀ content,
            home.contents.settings = some content → (decode? content.toList).isSome = true)
      ∧ (home.contents.settings = none → home.load = (some {}, home.repaired))
      ∧ (∀ content,
          home.contents.settings = some content
          → (decode? content.toList = none → home.load = (none, home))
            ∧ ∀ text,
              decode? content.toList = some text
              → (Settings.read text = none → home.load = (some {}, home.repaired))
                ∧ ∀ settings,
                  Settings.read text = some settings → home.load = (some settings, home))
      ∧ (∀ settings after,
          home.load = (some settings, after) → after.load = (some settings, after))
      ∧ ∀ environment : Environment,
        Invocation.ofArguments environment.arguments = .settings .content
        → prepare environment home
          = (home.load.1.elim
              (.fail (.unreadableSettings (settingsPath environment.homePath)))
              (showSettings (settingsPath environment.homePath) false),
            home.load.2) := by
  refine ⟨isSome_load_iff, load_of_missing, ?_, fun _ _ => load_load, ?_⟩
  · intro content there
    refine ⟨load_of_undecodable there, fun text decoded => ?_⟩
    exact ⟨load_of_malformed there decoded, fun _ => load_of_read there decoded⟩
  · intro environment asked
    exact CommandLine.prepare_of_showing asked home

/-- A header without its bracket makes no settings. The file is written anew once. -/
theorem load_repairs_once_malformed
    : let home : Home := .withFolder { settings := some "[regex\ncase_insensitive = true\n".toUTF8 }
      home.load = (some {}, home.repaired) ∧ home.repaired.load = (some {}, home.repaired) := by
  intro home
  obtain ⟨-, -, there, again, -⟩ := load_repairs_once home
  have repaired : home.load = (some {}, home.repaired) :=
    ((there _ rfl).2 "[regex\ncase_insensitive = true\n" (Text.decode?_eq_some_iff.mpr rfl)).1
      (by decide +kernel)
  exact ⟨repaired, again _ _ repaired⟩

end Home

end LineEditor
