import LineEditor.Files.Path
import LineEditor.Text.Lines

/-! Reading lines from files of a tree and writing lines to them. Lines are written to a draft, which
then takes the place of the file: a new file in the same directory, which is taken away again where
anything fails.
-/

namespace LineEditor

open Text (FileText fileContent)

namespace FileTree

----------------------------------------------------------------------------------------
-- Reading
----------------------------------------------------------------------------------------

/-- Reads the bytes at a place, which takes the right to read them. -/
def readPlace (tree : FileTree) (place : Place) : Except FileFault ByteArray :=
  match tree.at? place with
  | some (.file content rights) =>
      if tree.may .read rights then .ok content else .error .denied
  | some (.directory rights) =>
      .error (if tree.may .read rights then .isDirectory else .denied)
  | some (.link _) | none => .error .notFound

/-- Reads the bytes that a path leads to. -/
def read (tree : FileTree) (path : String) : Except FileFault ByteArray := do
  tree.readPlace (← tree.locate path)

/-- Reads the lines of the file at a path. -/
def load (tree : FileTree) (path : String) : Except FileError FileText :=
  match tree.read path with
  | .error fault => .error ⟨path, fault⟩
  | .ok content =>
      match FileText.ofBytes? content with
      | some text => .ok text
      | none => .error ⟨path, .notText⟩

----------------------------------------------------------------------------------------
-- Targets
----------------------------------------------------------------------------------------

/-- What writing to a path is aimed at: the place that the path leads to, or the path itself where
it leads nowhere.
-/
inductive Target where
  | found (place : Place)
  | lost (path : String)
  deriving DecidableEq, Repr

/-- The path of a target. -/
def Target.path : Target → String
  | found place => placePath place
  | lost path => path

/-- The target of writing to a path. -/
def target (tree : FileTree) (path : String) : Target :=
  match tree.locate path with
  | .ok place => .found place
  | .error _ => .lost path

/-- The place that the whole path of a place leads to, by the names of all directories above. -/
def descendTo (tree : FileTree) (place : Place) : Except FileFault Place := do
  requirePath (placePath place)
  tree.reach place
  .ok place

/-- The place that the path of a target leads to. -/
def resolve (tree : FileTree) : Target → Except FileFault Place
  | .found place => tree.descendTo place
  | .lost path => tree.locate path

/-- The mode of what a target leads to. -/
def mode? (tree : FileTree) (target : Target) : Option Nat :=
  match tree.resolve target with
  | .error _ => none
  | .ok place =>
      match tree.at? place with
      | some (.file _ rights) | some (.directory rights) => some rights.mode
      | some (.link _) | none => none

/-- The place of the name that the parts of a path end with. All other parts have to lead to a
directory. A link of that name is not followed.
-/
def lastPlace (tree : FileTree) (start : Place) (parts : List String)
    : Except FileFault Place := do
  let named := (parts.reverse.dropWhile (· == "")).reverse
  let directory ← tree.follow start named.dropLast
  tree.requireRight .search directory
  match named.getLast? with
  | none => .error .busy
  | some name =>
      if name = "." || name = ".." then .error .busy
      else if name.utf8ByteSize > nameLimit then .error .nameTooLong
      else if parts.getLast? = some "" then .error .notDirectory
      else .ok (directory ++ [name])

/-- The place that the path of a target names for a file. -/
def namedPlace (tree : FileTree) : Target → Except FileFault Place
  | .found place => tree.descendTo place
  | .lost path => do
      if hasNul path then .error .invalidName
      else
        requirePath path
        let (start, parts) := origin tree.working path
        tree.lastPlace start parts

/-- The place that a file gets when it is renamed to a target. What stands there is replaced, unless
it is a directory.
-/
def renamePlace (tree : FileTree) (target : Target) : Except FileFault Place := do
  let place ← tree.namedPlace target
  if place.isEmpty then .error .busy
  else
    tree.requireRight .write place.dropLast
    match tree.at? place with
    | some (.directory _) => .error .isDirectory
    | _ => .ok place

----------------------------------------------------------------------------------------
-- Drafts
----------------------------------------------------------------------------------------

/-- The path of the directory that a draft for a target is written in. -/
def Target.directoryPath (target : Target) : String := parentPath target.path

/-- The whole path of a draft for a target. -/
def draftPath (tree : FileTree) (target : Target) (name : String) : String :=
  joinPaths (joinPaths (placePath tree.working) target.directoryPath) name

/-- The directory that a draft for a target is written in. Its path is a whole one, from the root
on. For the root, which is in no directory, it is the one where the process works.
-/
def draftDirectory (tree : FileTree) : Target → Except FileFault Place
  | .found place => do
      let directory := if place.isEmpty then tree.working else place.dropLast
      tree.reach directory
      .ok directory
  | .lost path => do
      let (start, parts) := origin tree.working (parentPath path)
      tree.reach start
      tree.follow start parts

/-- Tries names for a draft, up to one that is free. -/
def findDraft (tree : FileTree) (target : Target) : List String → Except FileFault Place
  | [] => .error .tooManyDrafts
  | name :: names => do
      requirePath (tree.draftPath target name)
      let directory ← tree.draftDirectory target
      tree.requireRight .search directory
      if (tree.at? (directory ++ [name])).isSome then tree.findDraft target names
      else
        tree.requireRight .write directory
        .ok (directory ++ [name])

/-- The place where a draft for writing to a path is created. -/
def createDraft (tree : FileTree) (path : String) : Except FileFault Place := do
  let draft ← tree.findDraft (tree.target path) tree.draftNames
  tree.requireStep path .create
  .ok draft

/-- Steps of writing a draft. Each of them can fail, and leaves a tree in either case. -/
abbrev Writing := EStateM FileFault FileTree

/-- Fails if a check of the tree does. -/
def Writing.check {α : Type} (check : FileTree → Except FileFault α) : Writing α := fun tree =>
  match check tree with
  | .ok value => .ok value tree
  | .error fault => .error fault tree

/-- Writes the content of a draft. A part of it is there even if the system refuses the rest. -/
def fillDraft (path : String) (draft : Place) (content : ByteArray) : Writing Unit := do
  modify (·.put draft (.file (content.extract 0 (content.size / 2)) .draft))
  Writing.check (·.requireStep path .fill)
  modify (·.put draft (.file content .draft))

/-- Gives a file a mode. -/
def permit (tree : FileTree) (place : Place) (mode : Nat) : FileTree :=
  match tree.at? place with
  | some (.file content rights) => tree.put place (.file content { rights with mode := mode })
  | _ => tree

/-- Gives a draft the mode of what its target leads to, if that leads anywhere. -/
def permitDraft (path : String) (target : Target) (draft : Place) : Writing Unit := do
  match (← get).mode? target with
  | none => pure ()
  | some mode =>
      Writing.check (·.requireStep path .permit)
      modify (·.permit draft mode)

/-- Renames a draft to its target. -/
def renameDraft (path : String) (target : Target) (draft : Place) : Writing Unit := do
  let place ← Writing.check (·.renamePlace target)
  Writing.check (·.requireStep path .rename)
  modify (·.move draft place)

/-- Completes a draft that has been created. -/
def completeDraft (path : String) (target : Target) (draft : Place) (content : ByteArray)
    : Writing Unit := do
  fillDraft path draft content
  permitDraft path target draft
  renameDraft path target draft

/-- Writes lines to a path, a line feed after each, and counts the bytes. A draft that cannot be
created is reported at its directory, and all else at the path.
-/
def save (tree : FileTree) (path : String) (lines : List String)
    : Except FileError Nat × FileTree :=
  let target := tree.target path
  match tree.createDraft path with
  | .error fault => (.error ⟨target.directoryPath, fault⟩, tree)
  | .ok draft =>
      let content := fileContent lines
      match completeDraft path target draft content (tree.put draft (.file .empty .draft)) with
      | .ok _ tree => (.ok content.size, tree)
      | .error fault tree => (.error ⟨path, fault⟩, tree.remove draft)

end FileTree

end LineEditor
