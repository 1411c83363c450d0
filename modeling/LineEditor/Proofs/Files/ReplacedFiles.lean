import LineEditor.Proofs.Files.WrittenFiles

/-! Trees before and after files have been written. Writing gives the file that its path denotes its
content, and leaves everything else in the tree.
-/

namespace LineEditor.FileTree

variable {tree before after : FileTree} {place : Place} {path : String} {lines : List String}
  {count : Nat}

/-- The second tree is the first one with lines written to the file that a path denotes. The file
has each line with a line feed behind it and keeps its mode if it was there, the path leads to it,
and elsewhere nothing is created, changed or removed.
-/
structure Replaces (before : FileTree) (path : String) (lines : List String) (place : Place)
    (after : FileTree)
    : Prop where
  denotes : before.Denotes path place
  only : ∀ other, before.Denotes path other → other = place
  stored
    : ∃ content rights,
        after.at? place = some (.file content rights)
        ∧ (content.toList = lines.flatMap fun line => line.toByteArray.toList ++ [10])
        ∧ ∀ old others, before.at? place = some (.file old others) → rights.mode = others.mode
  leads : after.locate path = .ok place
  elsewhere : ∀ other, other ≠ place → after.at? other = before.at? other
  around : after = { before with entries := after.entries }

theorem replaces_of_save (saved : before.save path lines = (.ok count, after))
    : ∃ place, before.Replaces path lines place after := by
  obtain ⟨_, place, rights, saves⟩ := saves_of_save saved
  have stored := saves.entry_eq
  refine ⟨place, saves.denotes, ?_, ⟨_, rights, stored, ?_, saves.kept⟩, saves.locate_eq, ?_, ?_⟩
  · intro other same
    exact same.unique saves.denotes
  · exact Text.fileContent_toList lines
  · intro other away
    rw [saves.put]
    exact entry_put_of_ne away
  · rw [saves.put]
    rfl

/-- A link that leads to a file is written through. One that leads nowhere is replaced itself. -/
example
    : let tree : FileTree := {
        entries := [(["f"], .file "a\n".toUTF8), (["k"], .link "/f"), (["l"], .link "g")] }
      (tree.save "k" ["b"]).2 = {
          entries := [(["f"], .file "b\n".toUTF8), (["k"], .link "/f"), (["l"], .link "g")] }
        ∧ (tree.save "l" ["b"]).2 = {
          entries := [(["f"], .file "a\n".toUTF8), (["k"], .link "/f"),
            (["l"], .file "b\n".toUTF8 .draft)] } := by
  decide +kernel

/-- The tree with other names to draw for drafts, and with other steps that the system refuses. -/
def withSystem (tree : FileTree) (draftNames : List String)
    (refusals : List ((String × WriteStep) × FileFault)) : FileTree :=
  { tree with draftNames := draftNames, refusals := refusals }

/-- The second tree comes from the first one by writing to these paths, in order, whatever the
system refuses in between.
-/
inductive Rewritten (start : FileTree) : List (String × List String) → FileTree → Prop
  | refl : Rewritten start [] start
  | write {writes : List (String × List String)} {before after : FileTree} {path : String}
    {lines : List String} {place : Place} (earlier : Rewritten start writes before)
    (last : before.Replaces path lines place after)
    : Rewritten start (writes ++ [(path, lines)]) after
  | around {writes : List (String × List String)} {before : FileTree}
    (earlier : Rewritten start writes before) (draftNames : List String)
    (refusals : List ((String × WriteStep) × FileFault))
    : Rewritten start writes (before.withSystem draftNames refusals)

end LineEditor.FileTree
