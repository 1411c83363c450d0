import LineEditor.Files.Fault
import LineEditor.Settings.Basic
import LineEditor.Text.Lines

/-! The folder that the program keeps in the home directory: its settings and its log. -/

namespace LineEditor

open Text (decode?)

/-- What is in the program's folder: the bytes of the settings file, whether there is a log, and why
the log cannot be opened, if it cannot.
-/
structure Folder where
  settings : Option ByteArray := none
  hasLog : Bool := false
  logFault : Option FileFault := none
  deriving DecidableEq

/-- The part of the home directory that belongs to the program. It is apart from the tree that a
session works in, even where the one directory lies in the other: a session that writes to the
settings or to the log by their paths is not told here.
-/
structure Home where
  folder : Option Folder := none
  deriving DecidableEq

namespace Folder

/-- Loads the settings. A missing file is first written from the template. One that makes no
settings is written anew from it, and the settings are the defaults. One that is no text is
left alone, and there are no settings.
-/
def load (folder : Folder) : Option (Settings × Folder) :=
  let content := folder.settings.getD Settings.template.toUTF8
  match decode? content.toList with
  | none => none
  | some text =>
      match Settings.read text with
      | some settings => some (settings, { folder with settings := some content })
      | none => some ({}, { folder with settings := some Settings.template.toUTF8 })

end Folder

namespace Home

/-- The program's folder, made if it is missing. -/
def contents (home : Home) : Folder := home.folder.getD {}

/-- The home directory with the program's folder as given. -/
def withFolder (folder : Folder) : Home := ⟨some folder⟩

end Home

end LineEditor
