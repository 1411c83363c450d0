import LineEditor.Proofs.Text.StoredLines
import LineEditor.Settings.Home

/-! Settings that are loaded from the program's folder. A file that is missing, and a text that makes
no settings, are written anew from the template and mean the defaults; a file that is no text means
nothing.
-/

namespace LineEditor.Folder

open Text (decode?)

/-- The settings that a folder means, and the content of its settings file once they are loaded. -/
inductive Loads (folder : Folder) : Settings → ByteArray → Prop
  | absent (missing : folder.settings = none) : Loads folder {} Settings.template.toUTF8
  | malformed {content text} (there : folder.settings = some content)
    (decoded : decode? content.toList = some text) (unread : Settings.read text = none)
    : Loads folder {} Settings.template.toUTF8
  | written {content text settings} (there : folder.settings = some content)
    (decoded : decode? content.toList = some text) (read : Settings.read text = some settings)
    : Loads folder settings content

variable {folder : Folder} {settings : Settings} {content : ByteArray}

theorem template_toList
    : Settings.template.toList
      = Settings.templateLines.flatMap fun line => line.toList ++ ['\n'] := by
  rw [Settings.template, String.toList_join, List.flatMap_map]
  simp only [String.toList_append]
  rfl

/-- The template can be read, and says what the defaults are. Its characters are taken from its
lines, because those of one long text are slow to compute.
-/
theorem read_template : Settings.read Settings.template = some {} := by
  unfold Settings.read Toml.readDocument
  rw [template_toList]
  decide +kernel

/-- The content that is loaded: that of the file, or the template where there is no file. -/
def found (folder : Folder) : ByteArray := folder.settings.getD Settings.template.toUTF8

theorem decode?_template : decode? Settings.template.toUTF8.toList = some Settings.template := by
  rw [Text.decode?_eq_some_iff, String.toUTF8]

theorem load_of_text {text : String} (decoded : decode? folder.found.toList = some text)
    : folder.load
      = some (match Settings.read text with
        | some settings => (settings, { folder with settings := some folder.found })
        | none => ({}, { folder with settings := some Settings.template.toUTF8 })) := by
  unfold load found at *
  dsimp only
  rw [decoded]
  dsimp only
  cases Settings.read text <;> rfl

theorem Loads.load_eq (loads : folder.Loads settings content)
    : folder.load = some (settings, { folder with settings := some content }) := by
  cases loads with
  | absent missing =>
      have template : folder.found = Settings.template.toUTF8 := by rw [found, missing]; rfl
      rw [load_of_text (template ▸ decode?_template), read_template, template]
  | malformed there decoded unread =>
      rw [load_of_text (by simpa [found, there] using decoded), unread]
  | written there decoded read =>
      rw [load_of_text (by simpa [found, there] using decoded), read]
      simp [found, there]

/-- Settings cannot be loaded exactly if their file is no text. -/
theorem load_eq_none_iff
    : folder.load = none
      ↔ ∃ content, folder.settings = some content ∧ decode? content.toList = none := by
  cases there : folder.settings with
  | none =>
      have template : folder.found = Settings.template.toUTF8 := by rw [found, there]; rfl
      rw [load_of_text (template ▸ decode?_template)]
      simp
  | some content =>
      cases decoded : decode? content.toList with
      | none => simp [load, there, decoded]
      | some text =>
          rw [load_of_text (by simpa [found, there] using decoded)]
          simp [decoded]

end LineEditor.Folder
