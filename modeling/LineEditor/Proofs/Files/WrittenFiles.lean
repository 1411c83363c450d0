import Mathlib.Data.List.Forall2
import LineEditor.Proofs.Files.Drafts
import LineEditor.Proofs.Text.StoredLines

/-! Files that have been written. Reading by the same path finds what was written, if the process may
read it: the same lines, less a carriage return at the end of each.
-/

namespace LineEditor.FileTree

open Text (LosesReturn EndsInReturn fileContent)

variable {tree after : FileTree} {place : Place} {path : String} {lines : List String}
  {content : ByteArray} {rights : Rights}

/-- What is written to the path can be read by the process. This is so for a new file, which is its
own. A file that is replaced becomes its own as well, but keeps its mode, and that may refuse it.
-/
def Legible (tree : FileTree) (path : String) : Prop :=
  ∀ place content rights,
    tree.locate path = .ok place
    → tree.at? place = some (.file content rights)
    → tree.may .read ⟨rights.mode, .owner⟩ = true

theorem Saves.entry_eq (saves : tree.Saves path lines place rights after)
    : after.at? place = some (.file (fileContent lines) rights) := by
  rw [saves.put]
  exact entry_put_self saves.denotes.ends.filled

theorem Saves.locate_eq (saves : tree.Saves path lines place rights after)
    : after.locate path = .ok place := by
  rw [saves.put]
  exact saves.denotes.locate_put

/-- The process may read a file that it has written exactly if what is written there is legible. -/
theorem Saves.may_read_iff (saves : tree.Saves path lines place rights after)
    : after.may .read rights = true ↔ tree.Legible path := by
  have same : after.may = tree.may := by
    rw [saves.put]
    rfl
  have owned (mode : Nat) (kept : rights.mode = mode) : rights = ⟨mode, .owner⟩ := by
    rw [← kept, ← saves.owned]
  rw [same]
  constructor
  · intro may spot old others leads there
    have here : spot = place := (Denotes.known leads there).unique saves.denotes
    rw [here] at there
    rwa [← owned _ (saves.kept old others there)]
  · intro legible
    cases saves.denotes with
    | known leads there =>
        rw [owned _ (saves.kept _ _ there)]
        exact legible _ _ _ leads there
    | new lost | astray lost =>
        have granted : Rights.draft.grants .read = true := rfl
        rw [saves.fresh lost, may, granted, Bool.or_true]

theorem Saves.read_eq (saves : tree.Saves path lines place rights after)
    : after.read path
      = if after.may .read rights then .ok (fileContent lines) else .error .denied := by
  unfold read
  rw [saves.locate_eq]
  show after.readPlace place = _
  rw [readPlace, saves.entry_eq]

end LineEditor.FileTree
