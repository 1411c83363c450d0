import LineEditor.Proofs.Files.Entries

/-! Paths in a tree before and after a file is put into it. A file that is put instead of another
changes no path. One that is put where nothing stands, or a link that cannot be followed, changes
no path that leads somewhere; and such a tree has no new paths but those to the file.
-/

namespace LineEditor.FileTree

variable {tree after : FileTree} {place other spot next : Place} {path part name : String}
  {parts : List String} {entry : Entry} {content new : ByteArray} {rights : Rights} {depth : Nat}
  {jump leap : Place → String → Except FileFault Place}

----------------------------------------------------------------------------------------
-- Single steps
----------------------------------------------------------------------------------------

theorem isThere_put_of_ne (elsewhere : other ≠ place)
    : (tree.put place entry).isThere other = tree.isThere other := by
  unfold isThere
  rw [entry_put_of_ne elsewhere]

theorem isThere_of_file (file : tree.at? place = some (.file content rights))
    : tree.isThere place = true := by
  simp only [isThere, file]

/-- What is there is a file or a directory. -/
theorem isThere_iff
    : tree.isThere place = true
      ↔ (∃ content rights, tree.at? place = some (.file content rights))
        ∨ ∃ rights, tree.at? place = some (.directory rights) := by
  unfold isThere
  cases tree.at? place with
  | none => simp
  | some entry => cases entry <;> simp

/-- A part of a path is followed from directories only. -/
theorem directory_of_descend (leads : tree.descend jump place part = .ok next)
    : ∃ rights, tree.at? place = some (.directory rights) := by
  unfold descend at leads
  split at leads
  · cases leads
  · cases leads
  · cases leads
  · next rights found => exact ⟨rights, found⟩

/-- From the same directory the same part of a path leads to the same place, if names do. -/
theorem descend_of_enter (same : after.at? place = tree.at? place)
    (may : after.may = tree.may)
    (enters : tree.enter jump place part = .ok next → after.enter leap place part = .ok next)
    (leads : tree.descend jump place part = .ok next)
    : after.descend leap place part = .ok next := by
  unfold descend at leads ⊢
  rw [same, may]
  split at leads
  · cases leads
  · cases leads
  · cases leads
  · split_ifs at leads ⊢
    · exact leads
    · exact leads
    · exact leads
    · exact enters leads

/-- What follows single parts of a path follows all of them, by induction on the parts. -/
theorem followParts_of_descend
    (there : ∀ {place}, tree.isThere place = true → after.isThere place = true)
    (leads
      : ∀ {place part next},
          tree.descend jump place part = .ok next → after.descend leap place part = .ok next)
    (led : tree.followParts jump place parts = .ok next)
    : after.followParts leap place parts = .ok next := by
  induction parts generalizing place with
  | nil =>
      unfold followParts at led ⊢
      split at led
      · next found => rwa [if_pos (there found)]
      · cases led
  | cons part parts ih =>
      obtain ⟨between, first, rest⟩ := bind_eq_ok_iff.mp led
      exact bind_eq_ok_iff.mpr ⟨between, leads first, ih rest⟩

----------------------------------------------------------------------------------------
-- Depth of links
----------------------------------------------------------------------------------------

/-- Where one way of following links leads, the other one leads too. -/
def Extends (jump leap : Place → String → Except FileFault Place) : Prop :=
  ∀ place target next, jump place target = .ok next → leap place target = .ok next

theorem Extends.followParts (leaps : Extends jump leap)
    (led : tree.followParts jump place parts = .ok next)
    : tree.followParts leap place parts = .ok next := by
  refine followParts_of_descend id ?_ led
  intro place part next leads
  refine descend_of_enter rfl rfl ?_ leads
  intro entered
  unfold enter at entered ⊢
  split at entered
  · cases entered
  · exact leaps _ _ _ entered
  · exact entered

/-- A link that can be followed can be followed with links that lead deeper into one another, by
induction on the depth.
-/
theorem extends_succ (depth : Nat) : Extends (tree.jump depth) (tree.jump (depth + 1)) := by
  induction depth with
  | zero =>
      intro place target next led
      cases led
  | succ depth ih =>
      intro place target next led
      unfold FileTree.jump at led ⊢
      split at led
      · cases led
      · next filled =>
          rw [if_neg filled]
          exact ih.followParts led

theorem extends_of_le {most : Nat} (within : depth ≤ most)
    : Extends (tree.jump depth) (tree.jump most) := by
  induction within with
  | refl => exact fun _ _ _ led => led
  | step _ ih => exact fun place target next led => extends_succ _ _ _ _ (ih place target next led)

----------------------------------------------------------------------------------------
-- Places where paths end
----------------------------------------------------------------------------------------

/-- A place from where no path goes on: no directory stands there, and no link that can be followed.
-/
structure Ends (tree : FileTree) (place : Place) : Prop extends tree.Free place where
  blind
    : ∀ target next,
        tree.at? place = some (.link target)
        → tree.jump linkLimit place.dropLast target ≠ .ok next

theorem ends_of_file (file : tree.at? place = some (.file content rights)) : tree.Ends place := by
  refine ⟨free_of_file file, ?_⟩
  intro target next link
  rw [file] at link
  cases link

/-- A name leads on only past other places, so that it leads to the same from then on. -/
theorem Ends.enter_put (ends : tree.Ends spot) (within : depth ≤ linkLimit)
    (leaps : Extends (tree.jump depth) leap)
    (entered : tree.enter (tree.jump depth) place name = .ok next)
    : (tree.put spot (.file new rights)).enter leap place name = .ok next := by
  unfold enter at entered ⊢
  by_cases there : place ++ [name] = spot
  · rw [there] at entered ⊢
    rw [entry_put_self ends.filled]
    split at entered
    · cases entered
    · next target link =>
        refine absurd (extends_of_le within _ _ _ entered) ?_
        have front : place = spot.dropLast := by rw [← there, List.dropLast_concat]
        exact front ▸ ends.blind target next link
    · exact entered
  · rw [entry_put_of_ne there]
    split at entered
    · cases entered
    · exact leaps _ _ _ entered
    · exact entered

theorem Ends.followParts_put (ends : tree.Ends spot) (within : depth ≤ linkLimit)
    (leaps : Extends (tree.jump depth) leap)
    (led : tree.followParts (tree.jump depth) place parts = .ok next)
    : (tree.put spot (.file new rights)).followParts leap place parts = .ok next := by
  refine followParts_of_descend ?_ ?_ led
  · intro other there
    by_cases here : other = spot
    · rw [here]
      exact isThere_of_file (entry_put_self ends.filled)
    · rwa [isThere_put_of_ne here]
  · intro other part next leads
    obtain ⟨directory, found⟩ := directory_of_descend leads
    have elsewhere : other ≠ spot := by
      rintro rfl
      exact ends.apart directory found
    exact descend_of_enter (entry_put_of_ne elsewhere) rfl (ends.enter_put within leaps) leads

/-- Links lead where they led when a file has been put at a place from where no path goes on, by
induction on the depth of links.
-/
theorem Ends.extends_put (ends : tree.Ends spot) (within : depth ≤ linkLimit)
    : Extends (tree.jump depth) ((tree.put spot (.file new rights)).jump depth) := by
  induction depth with
  | zero =>
      intro place target next led
      cases led
  | succ depth ih =>
      intro place target next led
      have less : depth ≤ linkLimit := Nat.le_of_succ_le within
      unfold FileTree.jump at led ⊢
      split at led
      · cases led
      · next filled =>
          rw [if_neg filled]
          exact ends.followParts_put less (ih less) led

theorem Ends.follow_put (ends : tree.Ends spot) (led : tree.follow place parts = .ok next)
    : (tree.put spot (.file new rights)).follow place parts = .ok next :=
  ends.followParts_put (Nat.le_refl _) (ends.extends_put (Nat.le_refl _)) led

/-- What a path leads to it leads to also when a file has been put there. -/
theorem Ends.locate_put (ends : tree.Ends spot) (led : tree.locate path = .ok place)
    : (tree.put spot (.file new rights)).locate path = .ok place := by
  obtain ⟨_, followed, led⟩ := bind_eq_ok_iff.mp led
  exact bind_eq_ok_iff.mpr ⟨_, followed, ends.follow_put led⟩

----------------------------------------------------------------------------------------
-- Files at free places
----------------------------------------------------------------------------------------

/-- Where a file has been put no part of a path is followed. -/
theorem descend_put_self_ne (filled : spot ≠ [])
    : (tree.put spot (.file new rights)).descend leap spot part ≠ .ok next := by
  intro leads
  obtain ⟨directory, found⟩ := directory_of_descend leads
  rw [entry_put_self filled] at found
  cases found

theorem eq_of_followParts_put_self (filled : spot ≠ [])
    (led : (tree.put spot (.file new rights)).followParts leap spot parts = .ok next)
    : next = spot := by
  cases parts with
  | nil =>
      unfold followParts at led
      split at led
      · exact (Except.ok.inj led).symm
      · cases led
  | cons part parts =>
      obtain ⟨between, first, _⟩ := bind_eq_ok_iff.mp led
      exact absurd first (descend_put_self_ne filled)

/-- Where one way of following links leads, the other one leads too, unless that is to a place. -/
def ExtendsUpTo (spot : Place) (leap jump : Place → String → Except FileFault Place) : Prop :=
  ∀ place target next, leap place target = .ok next → next = spot ∨ jump place target = .ok next

/-- Where a file has been put at a free place, a part of a path leads to the file or where it led. -/
theorem descend_of_put (free : tree.at? spot = none) (jumps : ExtendsUpTo spot leap jump)
    (leads : (tree.put spot (.file new rights)).descend leap place part = .ok next)
    : next = spot ∨ tree.descend jump place part = .ok next := by
  have elsewhere : place ≠ spot := by
    intro here
    exact descend_put_self_ne (free_of_none free).filled (here ▸ leads)
  by_cases there : next = spot
  · exact Or.inl there
  · refine Or.inr (descend_of_enter (entry_put_of_ne elsewhere).symm rfl ?_ leads)
    intro entered
    unfold enter at entered ⊢
    by_cases below : place ++ [part] = spot
    · rw [below, entry_put_self (free_of_none free).filled] at entered
      cases entered
      exact absurd rfl there
    · rw [entry_put_of_ne below] at entered
      split at entered
      · cases entered
      · exact (jumps _ _ _ entered).resolve_left there
      · exact entered

/-- Where a file has been put at a free place, a path leads to the file or where it led, by induction
on its parts: no part is followed from a file.
-/
theorem followParts_of_put (free : tree.at? spot = none) (jumps : ExtendsUpTo spot leap jump)
    (led : (tree.put spot (.file new rights)).followParts leap place parts = .ok next)
    : next = spot ∨ tree.followParts jump place parts = .ok next := by
  induction parts generalizing place with
  | nil =>
      unfold followParts at led ⊢
      split at led
      · next there =>
          cases led
          by_cases here : next = spot
          · exact Or.inl here
          · rw [isThere_put_of_ne here] at there
            exact Or.inr (if_pos there)
      · cases led
  | cons part parts ih =>
      obtain ⟨between, first, rest⟩ := bind_eq_ok_iff.mp led
      rcases descend_of_put free jumps first with rfl | first
      · exact Or.inl (eq_of_followParts_put_self (free_of_none free).filled rest)
      · rcases ih rest with here | rest
        · exact Or.inl here
        · exact Or.inr (bind_eq_ok_iff.mpr ⟨between, first, rest⟩)

/-- Where a file has been put at a free place, a link leads to the file or where it led, by induction
on the depth of links.
-/
theorem extendsUpTo_of_put (free : tree.at? spot = none) (depth : Nat)
    : ExtendsUpTo spot ((tree.put spot (.file new rights)).jump depth) (tree.jump depth) := by
  induction depth with
  | zero =>
      intro place target next led
      cases led
  | succ depth ih =>
      intro place target next led
      unfold FileTree.jump at led ⊢
      split at led
      · cases led
      · next filled =>
          rw [if_neg filled]
          exact followParts_of_put free ih led

theorem follow_of_put (free : tree.at? spot = none)
    (led : (tree.put spot (.file new rights)).follow place parts = .ok next)
    : next = spot ∨ tree.follow place parts = .ok next :=
  followParts_of_put free (extendsUpTo_of_put free linkLimit) led

end LineEditor.FileTree
