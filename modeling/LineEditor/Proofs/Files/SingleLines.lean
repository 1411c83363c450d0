import LineEditor.Proofs.Files.Drafts
import LineEditor.Proofs.Text.SingleLines

/-! Names of files on single lines. A path on a single line leads to a place whose names are single
lines, if the names that the system adds are: those of the directories above the place where the
process works, and those that the texts of links lead through. So are the paths that faults are
reported at.
-/

namespace LineEditor.FileTree

open Text (FileText SingleLine mem_splitOn singleLine_append singleLine_of_ofBytes?)

variable {tree : FileTree} {start place next : Place} {path part text : String}
  {parts lines : List String} {error : FileError}
  {leap : Place → String → Except FileFault Place}

----------------------------------------------------------------------------------------
-- Texts of paths
----------------------------------------------------------------------------------------

theorem singleLine_segments (single : SingleLine path)
    : ∀ segment ∈ segments path, SingleLine segment := by
  intro segment member
  obtain ⟨piece, among, rfl⟩ := List.mem_map.mp member
  exact Text.singleLine_ofList.mpr fun feed => single ((mem_splitOn among).2 feed)

theorem dropIdle_subset (parts : List String) : dropIdle parts ⊆ parts := by
  cases parts with
  | nil => exact List.Subset.refl _
  | cons first rest =>
      refine List.cons_subset_cons first ?_
      intro part member
      exact List.mem_reverse.mp (List.dropWhile_subset _ (List.mem_reverse.mp member))

theorem singleLine_intercalate {separator : String} {parts : List String}
    (between : SingleLine separator) (single : ∀ part ∈ parts, SingleLine part)
    : SingleLine (separator.intercalate parts) := by
  induction parts with
  | nil =>
      rw [String.intercalate_nil]
      decide
  | cons first rest ih =>
      obtain ⟨here, others⟩ := List.forall_mem_cons.mp single
      cases rest with
      | nil => rwa [String.intercalate_singleton]
      | cons next rest =>
          rw [String.intercalate_cons_cons, singleLine_append, singleLine_append]
          exact ⟨⟨here, between⟩, ih others⟩

/-- The directory of a path is named on a single line if the path is. -/
theorem singleLine_parentPath (single : SingleLine path) : SingleLine (parentPath path) := by
  unfold parentPath
  split
  · decide
  · have parts : ∀ part ∈ dropIdle (dropIdle (segments path)).dropLast, SingleLine part := by
      intro part member
      have kept := List.dropLast_subset _ (dropIdle_subset _ member)
      exact singleLine_segments single part (dropIdle_subset _ kept)
    split
    · decide
    · exact singleLine_intercalate (by decide) parts

theorem singleLine_placePath (single : ∀ name ∈ place, SingleLine name)
    : SingleLine (placePath place) :=
  singleLine_append.mpr ⟨by decide, singleLine_intercalate (by decide) single⟩

----------------------------------------------------------------------------------------
-- Places
----------------------------------------------------------------------------------------

/-- The names that the system adds to a path are single lines: those of the directories above the
place where the process works, and those in the texts of links.
-/
structure SingleLines (tree : FileTree) : Prop where
  working : ∀ name ∈ tree.working, SingleLine name
  links : ∀ place target, tree.at? place = some (.link target) → SingleLine target

theorem singleLines_of_entries (working : ∀ name ∈ tree.working, SingleLine name)
    (links : ∀ item ∈ tree.entries, ∀ target, item.2 = .link target → SingleLine target)
    : tree.SingleLines := by
  refine ⟨working, ?_⟩
  intro place target link
  unfold at? at link
  split at link
  · cases link
  · obtain ⟨front, behind, entries, _⟩ := List.lookup_eq_some_iff.mp link
    exact links (place, .link target) (by simp [entries]) target rfl

theorem singleLine_origin (inside : ∀ name ∈ start, SingleLine name) (single : SingleLine path)
    : (∀ name ∈ (origin start path).1, SingleLine name)
      ∧ ∀ part ∈ (origin start path).2, SingleLine part := by
  have parts := singleLine_segments single
  unfold origin
  split
  · next rest absolute =>
      rw [absolute] at parts
      exact ⟨nofun, (List.forall_mem_cons.mp parts).2⟩
  · exact ⟨inside, parts⟩

/-- This way of following links leads from single lines to single lines only. -/
def LeapsOnSingleLines (leap : Place → String → Except FileFault Place) : Prop :=
  ∀ place text next,
    (∀ name ∈ place, SingleLine name)
    → SingleLine text
    → leap place text = .ok next
    → ∀ name ∈ next, SingleLine name

/-- A part on a single line is followed to names on single lines, if links are. -/
theorem SingleLines.descend (single : tree.SingleLines) (leaps : LeapsOnSingleLines leap)
    (inside : ∀ name ∈ place, SingleLine name) (named : SingleLine part)
    (leads : tree.descend leap place part = .ok next)
    : ∀ name ∈ next, SingleLine name := by
  unfold FileTree.descend at leads
  split at leads
  · cases leads
  · cases leads
  · cases leads
  · split_ifs at leads
    · cases leads
      exact inside
    · cases leads
      exact inside
    · cases leads
      exact fun name member => inside name (List.dropLast_subset _ member)
    · unfold enter at leads
      split at leads
      · cases leads
      · next target link => exact leaps _ _ _ inside (single.links _ target link) leads
      · cases leads
        exact List.forall_mem_append.mpr ⟨inside, List.forall_mem_singleton.mpr named⟩

theorem SingleLines.followParts (single : tree.SingleLines) (leaps : LeapsOnSingleLines leap)
    (inside : ∀ name ∈ place, SingleLine name) (named : ∀ part ∈ parts, SingleLine part)
    (led : tree.followParts leap place parts = .ok next)
    : ∀ name ∈ next, SingleLine name := by
  induction parts generalizing place with
  | nil =>
      unfold FileTree.followParts at led
      split at led
      · cases led
        exact inside
      · cases led
  | cons part parts ih =>
      obtain ⟨first, others⟩ := List.forall_mem_cons.mp named
      obtain ⟨between, leads, rest⟩ := bind_eq_ok_iff.mp led
      exact ih (single.descend leaps inside first leads) others rest

/-- Links lead to names on single lines, by induction on the depth of links. -/
theorem SingleLines.leaps (single : tree.SingleLines) (depth : Nat)
    : LeapsOnSingleLines (tree.jump depth) := by
  induction depth with
  | zero =>
      intro place text next _ _ led
      cases led
  | succ depth ih =>
      intro place text next inside named led
      unfold FileTree.jump at led
      split at led
      · cases led
      · obtain ⟨begins, parts⟩ := singleLine_origin inside named
        exact single.followParts ih begins parts led

/-- A path on a single line leads to names on single lines. -/
theorem SingleLines.locate (single : tree.SingleLines) (named : SingleLine path)
    (leads : tree.locate path = .ok place)
    : ∀ name ∈ place, SingleLine name := by
  obtain ⟨_, _, led⟩ := bind_eq_ok_iff.mp leads
  obtain ⟨begins, parts⟩ := singleLine_origin single.working named
  exact single.followParts (single.leaps linkLimit) begins parts led

theorem SingleLines.target (single : tree.SingleLines) (named : SingleLine path)
    : SingleLine (tree.target path).path := by
  unfold FileTree.target
  split
  · next leads => exact singleLine_placePath (single.locate named leads)
  · exact named

----------------------------------------------------------------------------------------
-- Files that are read and written
----------------------------------------------------------------------------------------

/-- A file that cannot be read is reported at its path. -/
theorem singleLine_of_load_error (single : SingleLine path)
    (failed : tree.load path = .error error)
    : SingleLine error.path := by
  unfold load at failed
  split at failed
  · cases failed
    exact single
  · split at failed
    · cases failed
    · cases failed
      exact single

/-- The lines that are read from a file are single lines. -/
theorem singleLine_of_load {text : FileText} (read : tree.load path = .ok text)
    : ∀ line ∈ text.lines, SingleLine line := by
  unfold load at read
  split at read
  · cases read
  · split at read
    · next stored =>
        cases read
        exact singleLine_of_ofBytes? stored
    · cases read

/-- A file that cannot be written is reported at its path, or at that of the directory of the place
that the path leads to.
-/
theorem SingleLines.save_error (single : tree.SingleLines) (named : SingleLine path)
    (failed : (tree.save path lines).1 = .error error)
    : SingleLine error.path := by
  unfold save at failed
  dsimp only at failed
  split at failed
  · cases failed
    exact singleLine_parentPath (single.target named)
  · split at failed
    · cases failed
    · cases failed
      exact named

/-- Writing adds no links. -/
theorem SingleLines.save (single : tree.SingleLines)
    : (tree.save path lines).2.SingleLines := by
  cases saved : tree.save path lines with
  | mk result after =>
      cases result with
      | error error =>
          have same := save_of_error (congrArg Prod.fst saved)
          rw [saved] at same
          exact same ▸ single
      | ok count =>
          obtain ⟨_, spot, rights, saves⟩ := saves_of_save saved
          rw [saves.put]
          refine ⟨single.working, ?_⟩
          intro place target link
          by_cases here : place = spot
          · rw [here, entry_put_self saves.denotes.ends.filled] at link
            cases link
          · rw [entry_put_of_ne here] at link
            exact single.links place target link

end LineEditor.FileTree
