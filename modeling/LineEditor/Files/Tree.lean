import LineEditor.Files.Fault
import LineEditor.Text.Lines

/-! A tree of files, directories and links as a process sees it: where it works in the tree, what it
may do with what stands there, and what the system refuses to do for it.
-/

namespace LineEditor

----------------------------------------------------------------------------------------
-- Rights
----------------------------------------------------------------------------------------

/-- What can be done with a file or a directory. A directory is searched to reach what is in it. -/
inductive Right where
  | read
  | write
  | search
  deriving DecidableEq, Repr

/-- How a process stands to a file: it owns it, it only belongs to its group, or neither. -/
inductive Standing where
  | owner
  | group
  | other
  deriving DecidableEq, Repr

/-- The rights to a file or a directory: its mode, three bits for each standing, and how the
process stands to it.
-/
structure Rights where
  mode : Nat
  standing : Standing := .owner
  deriving DecidableEq, Repr

/-- The place of a right among the three bits of a standing. -/
def Right.position : Right → Nat
  | read => 2
  | write => 1
  | search => 0

/-- The place of the three bits of a standing in a mode. -/
def Standing.position : Standing → Nat
  | owner => 6
  | group => 3
  | other => 0

/-- The mode grants a right to the standing of the process. -/
def Rights.grants (rights : Rights) (right : Right) : Bool :=
  rights.mode.testBit (rights.standing.position + right.position)

/-- The rights to a draft, which are its owner's alone. -/
def Rights.draft : Rights := ⟨0o600, .owner⟩

----------------------------------------------------------------------------------------
-- Trees
----------------------------------------------------------------------------------------

/-- What stands at a place of the tree. A link stands for the path that is its text. -/
inductive Entry where
  | file (content : ByteArray) (rights : Rights := ⟨0o644, .owner⟩)
  | directory (rights : Rights := ⟨0o755, .owner⟩)
  | link (target : String)
  deriving DecidableEq

/-- A place below the root: the names of the directories on the way and the last name. -/
abbrev Place := List String

/-- The steps in which a file is written: a draft is created, filled, given a mode and renamed. -/
inductive WriteStep where
  | create
  | fill
  | permit
  | rename
  deriving DecidableEq, Repr

/-- A tree of files. The root is a directory without an entry of its own. Relative paths start at
the place where the process works; a privileged process has every right. The system draws names
for drafts at random and tries them in order. It refuses steps of writing to a path for reasons
that the rights do not tell, as when a disk is full.
-/
structure FileTree where
  entries : List (Place × Entry) := []
  root : Rights := ⟨0o755, .owner⟩
  working : Place := []
  privileged : Bool := false
  draftNames : List String := [".tmpAAAAAA"]
  refusals : List ((String × WriteStep) × FileFault) := []
  deriving DecidableEq

namespace FileTree

/-- What stands at a place. -/
def at? (tree : FileTree) (place : Place) : Option Entry :=
  if place.isEmpty then some (.directory tree.root) else tree.entries.lookup place

/-- Puts an entry at a place, instead of one that was there. -/
def put (tree : FileTree) (place : Place) (entry : Entry) : FileTree :=
  { tree with
    entries :=
      if (tree.entries.lookup place).isSome then
        tree.entries.map fun item => if item.1 = place then (place, entry) else item
      else tree.entries ++ [(place, entry)] }

/-- Takes away the entry at a place. -/
def remove (tree : FileTree) (place : Place) : FileTree :=
  { tree with entries := tree.entries.filter fun item => item.1 ≠ place }

/-- Moves the entry at a place to another one, instead of one that was there. -/
def move (tree : FileTree) (place other : Place) : FileTree :=
  match tree.at? place with
  | some entry => (tree.remove place).put other entry
  | none => tree

/-- The process has a right that rights are to grant. -/
def may (tree : FileTree) (right : Right) (rights : Rights) : Bool :=
  tree.privileged || rights.grants right

/-- The directory at a place gives the process a right. -/
def requireRight (tree : FileTree) (right : Right) (place : Place) : Except FileFault Unit :=
  match tree.at? place with
  | some (.directory rights) => if tree.may right rights then .ok () else .error .denied
  | some _ => .error .notDirectory
  | none => .error .notFound

/-- The system does not refuse a step of writing to a path. -/
def requireStep (tree : FileTree) (path : String) (step : WriteStep) : Except FileFault Unit :=
  match tree.refusals.lookup (path, step) with
  | some fault => .error fault
  | none => .ok ()

end FileTree

end LineEditor
