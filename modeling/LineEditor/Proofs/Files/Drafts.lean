import LineEditor.Proofs.Files.DenotedFiles

/-! Writing by way of a draft. Until a draft is renamed the tree is the old one with a draft at a free
place, whatever has been done and whatever has failed; so taking the draft away gives back the old
tree, and renaming it gives that tree with the file that the path denotes.
-/

namespace LineEditor.FileTree

open Text (fileContent)

variable {tree start after : FileTree} {draft place : Place} {path : String} {names : List String}
  {lines : List String} {content new : ByteArray} {rights other : Rights} {target : Target}
  {entry : Entry}

----------------------------------------------------------------------------------------
-- Steps of writing
----------------------------------------------------------------------------------------

/-- Steps of writing that start with a tree leave one tree if they go well, and another one if they
fail, each with a property.
-/
structure Writing.Leaves {α : Type} (writing : Writing α) (start : FileTree)
    (well : α → FileTree → Prop) (failed : FileTree → Prop)
    : Prop where
  well : ∀ value left, writing start = .ok value left → well value left
  failed : ∀ fault left, writing start = .error fault left → failed left

namespace Writing

variable {α β : Type} {first : Writing α} {second : α → Writing β} {well : α → FileTree → Prop}
  {done : β → FileTree → Prop} {failed : FileTree → Prop}

/-- The second steps start with what the first ones leave if they go well. -/
theorem Leaves.bind (begins : first.Leaves start well failed)
    (goesOn : ∀ value left, well value left → (second value).Leaves left done failed)
    : Leaves (first >>= second) start done failed := by
  cases ran : first start with
  | ok value left =>
      have run : (first >>= second) start = second value left := by
        show EStateM.bind first second start = _
        rw [EStateM.bind, ran]
      have rest := goesOn value left (begins.well value left ran)
      exact ⟨run ▸ rest.well, run ▸ rest.failed⟩
  | error fault left =>
      have run : (first >>= second) start = .error fault left := by
        show EStateM.bind first second start = _
        rw [EStateM.bind, ran]
      refine ⟨by simp [run], ?_⟩
      intro other last ended
      rw [run] at ended
      cases ended
      exact begins.failed fault left ran

theorem Leaves.imp {other : α → FileTree → Prop} (leaves : first.Leaves start well failed)
    (weaker : ∀ value left, well value left → other value left)
    : first.Leaves start other failed :=
  ⟨fun value left ended => weaker value left (leaves.well value left ended), leaves.failed⟩

theorem leaves_pure (value : α) (start : FileTree) (failed : FileTree → Prop)
    : Leaves (pure value) start (fun _ left => left = start) failed := by
  constructor
  · intro other left ended
    cases ended
    rfl
  · intro fault left ended
    cases ended

theorem leaves_get (start : FileTree) (failed : FileTree → Prop)
    : Leaves get start (fun value left => value = start ∧ left = start) failed := by
  constructor
  · intro value left ended
    cases ended
    exact ⟨rfl, rfl⟩
  · intro fault left ended
    cases ended

theorem leaves_modify (change : FileTree → FileTree) (start : FileTree)
    (failed : FileTree → Prop)
    : Leaves (modify change) start (fun _ left => left = change start) failed := by
  constructor
  · intro value left ended
    cases ended
    rfl
  · intro fault left ended
    cases ended

/-- A check leaves the tree. -/
theorem leaves_check (check : FileTree → Except FileFault α) (kept : failed start)
    : Leaves (Writing.check check) start
        (fun value left => check start = .ok value ∧ left = start) failed := by
  unfold Writing.check
  cases checked : check start with
  | ok value =>
      constructor
      · intro other left ended
        simp only [checked] at ended
        cases ended
        exact ⟨rfl, rfl⟩
      · intro fault left ended
        simp [checked] at ended
  | error fault =>
      constructor
      · intro value left ended
        simp [checked] at ended
      · intro other left ended
        simp only [checked] at ended
        cases ended
        exact kept

end Writing

----------------------------------------------------------------------------------------
-- Drafts
----------------------------------------------------------------------------------------

/-- The tree is another one with a draft put at a place. -/
def Drafted (tree : FileTree) (draft : Place) (left : FileTree) : Prop :=
  ∃ content rights, left = tree.put draft (.file content rights)

theorem drafted_put (tree : FileTree) (draft : Place) (content : ByteArray) (rights : Rights)
    : tree.Drafted draft (tree.put draft (.file content rights)) :=
  ⟨content, rights, rfl⟩

theorem fillDraft_leaves (path : String) (content : ByteArray)
    : (fillDraft path draft content).Leaves (tree.put draft entry)
        (fun _ left => left = tree.put draft (.file content .draft)) (tree.Drafted draft) := by
  unfold fillDraft
  refine (Writing.leaves_modify _ _ _).bind ?_
  rintro _ _ rfl
  rw [put_put]
  refine (Writing.leaves_check _ (drafted_put tree draft _ _)).bind ?_
  rintro _ _ ⟨_, rfl⟩
  refine (Writing.leaves_modify _ _ _).imp ?_
  rintro _ _ rfl
  exact put_put

/-- The draft gets the mode of what its target leads to. -/
theorem permitDraft_leaves (filled : draft ≠ []) (path : String) (target : Target)
    : (permitDraft path target draft).Leaves (tree.put draft (.file content .draft))
        (fun _ left =>
          ∃ mode,
            mode = ((tree.put draft (.file content .draft)).mode? target).getD Rights.draft.mode
            ∧ left = tree.put draft (.file content ⟨mode, .owner⟩))
        (tree.Drafted draft) := by
  unfold permitDraft
  refine (Writing.leaves_get _ _).bind ?_
  rintro _ _ ⟨rfl, rfl⟩
  cases known : (tree.put draft (.file content .draft)).mode? target with
  | none =>
      refine (Writing.leaves_pure _ _ _).imp ?_
      rintro _ _ rfl
      exact ⟨_, rfl, rfl⟩
  | some mode =>
      refine (Writing.leaves_check _ (drafted_put tree draft _ _)).bind ?_
      rintro _ _ ⟨_, rfl⟩
      refine (Writing.leaves_modify _ _ _).imp ?_
      rintro _ _ rfl
      refine ⟨_, rfl, ?_⟩
      simp only [permit, entry_put_self filled]
      exact put_put

/-- The draft takes the place that renaming gives it, and no draft is left. -/
theorem renameDraft_leaves (free : tree.at? draft = none) (path : String) (target : Target)
    : (renameDraft path target draft).Leaves (tree.put draft (.file content rights))
        (fun _ left =>
          ∃ place,
            (tree.put draft (.file content rights)).renamePlace target = .ok place
            ∧ left = tree.put place (.file content rights))
        (tree.Drafted draft) := by
  unfold renameDraft
  refine (Writing.leaves_check _ (drafted_put tree draft _ _)).bind ?_
  rintro place _ ⟨renamed, rfl⟩
  refine (Writing.leaves_check _ (drafted_put tree draft _ _)).bind ?_
  rintro _ _ ⟨_, rfl⟩
  refine (Writing.leaves_modify _ _ _).imp ?_
  rintro _ _ rfl
  exact ⟨place, renamed, move_put free⟩

/-- A draft that is completed has taken the place that renaming gives it. One that fails is left where
it is, and nothing else has become another.
-/
theorem completeDraft_leaves (free : tree.at? draft = none) (path : String) (target : Target)
    (content : ByteArray)
    : (completeDraft path target draft content).Leaves (tree.put draft entry)
        (fun _ left =>
          ∃ mode place,
            mode = ((tree.put draft (.file content .draft)).mode? target).getD Rights.draft.mode
            ∧ (tree.put draft (.file content ⟨mode, .owner⟩)).renamePlace target = .ok place
            ∧ left = tree.put place (.file content ⟨mode, .owner⟩))
        (tree.Drafted draft) := by
  unfold completeDraft
  refine (fillDraft_leaves path content).bind ?_
  rintro _ _ rfl
  refine (permitDraft_leaves (free_of_none free).filled path target).bind ?_
  rintro _ _ ⟨mode, known, rfl⟩
  refine (renameDraft_leaves free path target).imp ?_
  rintro _ _ ⟨place, renamed, rfl⟩
  exact ⟨mode, place, known, renamed, rfl⟩

/-- A draft is created at a place where nothing stands, by induction on the names that are tried. -/
theorem entry_eq_none_of_findDraft (found : tree.findDraft target names = .ok draft)
    : tree.at? draft = none := by
  induction names with
  | nil => cases found
  | cons name names ih =>
      obtain ⟨_, _, found⟩ := bind_eq_ok_iff.mp found
      obtain ⟨directory, _, found⟩ := bind_eq_ok_iff.mp found
      obtain ⟨_, _, found⟩ := bind_eq_ok_iff.mp found
      split at found
      · exact ih found
      · next free =>
          obtain ⟨_, _, found⟩ := bind_eq_ok_iff.mp found
          cases found
          simpa using free

/-- Going down to a place takes no notice of what a draft holds. -/
theorem reachBelow_put
    (reached : (tree.put draft (.file content rights)).reachBelow place names = .ok ())
    (filled : draft ≠ [])
    : (tree.put draft (.file new other)).reachBelow place names = .ok () := by
  induction names generalizing place with
  | nil => rfl
  | cons name names ih =>
      obtain ⟨_, searched, rest⟩ := bind_eq_ok_iff.mp reached
      refine bind_eq_ok_iff.mpr ⟨(), ?_, ih rest⟩
      have elsewhere : place ≠ draft :=
        (free_of_file (entry_put_self filled)).ne_of_requireRight searched
      rw [requireRight_put_of_ne elsewhere] at searched ⊢
      exact searched

----------------------------------------------------------------------------------------
-- Saved files
----------------------------------------------------------------------------------------

/-- What writing that goes well comes to. The file that the path denotes holds the lines, and belongs
to the process. It keeps the mode of a file that was there; a new one is its owner's alone.
-/
structure Saves (tree : FileTree) (path : String) (lines : List String) (place : Place)
    (rights : Rights) (after : FileTree)
    : Prop where
  denotes : tree.Denotes path place
  put : after = tree.put place (.file (fileContent lines) rights)
  owned : rights.standing = .owner
  kept : ∀ content old, tree.at? place = some (.file content old) → rights.mode = old.mode
  fresh : (∀ place, tree.locate path ≠ .ok place) → rights = .draft

/-- What a path leads to does not stand at a free place. -/
theorem isThere_of_locate (leads : tree.locate path = .ok place) : tree.isThere place = true := by
  obtain ⟨_, _, led⟩ := bind_eq_ok_iff.mp leads
  exact isThere_of_followParts led

/-- A draft that is renamed takes the place that its target names, where no directory stands. -/
theorem named_of_renamePlace (renamed : tree.renamePlace target = .ok place)
    : tree.namedPlace target = .ok place
      ∧ ∀ rights, tree.at? place ≠ some (.directory rights) := by
  obtain ⟨spot, named, result⟩ := bind_eq_ok_iff.mp renamed
  split at result
  · cases result
  obtain ⟨_, _, result⟩ := bind_eq_ok_iff.mp result
  split at result
  · cases result
  · next apart =>
      cases result
      exact ⟨named, fun rights directory => apart rights directory⟩

theorem eq_of_descendTo {spot : Place} (reached : tree.descendTo place = .ok spot)
    : spot = place := by
  obtain ⟨_, _, rest⟩ := bind_eq_ok_iff.mp reached
  obtain ⟨_, _, result⟩ := bind_eq_ok_iff.mp rest
  exact (Except.ok.inj result).symm

/-- A draft that is renamed takes the place that the path denotes. -/
theorem denotes_of_renamePlace (free : tree.at? draft = none)
    (renamed
      : (tree.put draft (.file content rights)).renamePlace (tree.target path) = .ok place)
    : tree.Denotes path place := by
  obtain ⟨named, apart⟩ := named_of_renamePlace renamed
  unfold target at named
  split at named
  · next spot leads =>
      obtain rfl := eq_of_descendTo named
      have there := isThere_of_locate leads
      have elsewhere : place ≠ draft := by
        rintro rfl
        simp [isThere, free] at there
      rw [entry_put_of_ne elsewhere] at apart
      rcases isThere_iff.mp there with ⟨content, rights, file⟩ | ⟨rights, directory⟩
      · exact .known leads file
      · exact absurd directory (apart rights)
  · next lost =>
      obtain ⟨parent, name, names, rfl⟩ := names_of_namedPlace free named
      exact names.denotes fun other leads => by simp [leads] at lost

theorem descendTo_put {spot : Place}
    (reached : (tree.put draft (.file content rights)).descendTo place = .ok spot)
    (filled : draft ≠ [])
    : (tree.put draft (.file new other)).descendTo place = .ok place := by
  obtain ⟨_, followed, rest⟩ := bind_eq_ok_iff.mp reached
  obtain ⟨_, reached, _⟩ := bind_eq_ok_iff.mp rest
  refine bind_eq_ok_iff.mpr ⟨(), followed, bind_eq_ok_iff.mpr ⟨(), ?_, rfl⟩⟩
  exact reachBelow_put reached filled

/-- A file that a path leads to gives its mode to the draft. -/
theorem mode_of_known {old : ByteArray} {mode : Rights} (free : tree.at? draft = none)
    (leads : tree.locate path = .ok place) (there : tree.at? place = some (.file old mode))
    (renamed
      : (tree.put draft (.file content rights)).renamePlace (tree.target path) = .ok place)
    : (tree.put draft (.file new other)).mode? (tree.target path) = some mode.mode := by
  have elsewhere : place ≠ draft := by
    rintro rfl
    rw [free] at there
    cases there
  obtain ⟨named, _⟩ := named_of_renamePlace renamed
  unfold target at named ⊢
  rw [leads] at named ⊢
  have reached : (tree.put draft (.file new other)).descendTo place = .ok place :=
    descendTo_put named (free_of_none free).filled
  simp only [mode?, resolve, reached, entry_put_of_ne elsewhere, there]

/-- Where a path leads nowhere, the draft keeps the mode it was created with: the path leads nowhere
still, or to the draft itself.
-/
theorem mode_of_lost (free : tree.at? draft = none)
    (lost : ∀ place, tree.locate path ≠ .ok place)
    : ((tree.put draft (.file content .draft)).mode? (tree.target path)).getD Rights.draft.mode
      = Rights.draft.mode := by
  have aimed : tree.target path = .lost path := by
    unfold target
    split
    · next leads => exact absurd leads (lost _)
    · rfl
  rw [aimed]
  unfold mode? resolve
  dsimp only
  split
  · rfl
  · next place leads =>
      obtain ⟨_, followed, led⟩ := bind_eq_ok_iff.mp leads
      rcases follow_of_put free led with rfl | led
      · rw [entry_put_self (free_of_none free).filled]
        rfl
      · exact absurd ((locate_eq followed).trans led) (lost place)

theorem entry_eq_none_of_createDraft (created : tree.createDraft path = .ok draft)
    : tree.at? draft = none := by
  obtain ⟨spot, found, rest⟩ := bind_eq_ok_iff.mp created
  obtain ⟨_, _, result⟩ := bind_eq_ok_iff.mp rest
  cases result
  exact entry_eq_none_of_findDraft found

/-- Writing that fails leaves the tree as it was: no draft has been created, or it has been taken away
again.
-/
theorem save_of_error {error : FileError} (failed : (tree.save path lines).1 = .error error)
    : (tree.save path lines).2 = tree := by
  unfold save at failed ⊢
  dsimp only at failed ⊢
  split
  · rfl
  · next draft created =>
      have free := entry_eq_none_of_createDraft created
      rw [created] at failed
      dsimp only at failed ⊢
      split
      · next done => simp [done] at failed
      · next fault left ended =>
          obtain ⟨content, rights, rfl⟩ := (completeDraft_leaves free _ _ _).failed fault left ended
          exact remove_put free

/-- Writing that goes well replaces the file that the path denotes, and nothing else. -/
theorem saves_of_save {count : Nat} (saved : tree.save path lines = (.ok count, after))
    : count = (fileContent lines).size ∧ ∃ place rights, tree.Saves path lines place rights after := by
  unfold save at saved
  dsimp only at saved
  split at saved
  · cases saved
  next draft created =>
  have free := entry_eq_none_of_createDraft created
  split at saved
  · next left ended =>
      cases saved
      obtain ⟨mode, place, known, renamed, rfl⟩ := (completeDraft_leaves free _ _ _).well _ _ ended
      have denotes := denotes_of_renamePlace free renamed
      refine ⟨rfl, place, _, denotes, rfl, rfl, ?_, ?_⟩
      · intro old others file
        rw [mode_of_known free (denotes.leads_of_file file) file renamed] at known
        exact known
      · intro lost
        rw [mode_of_lost free lost] at known
        rw [known]
        rfl
  · cases saved

end LineEditor.FileTree
