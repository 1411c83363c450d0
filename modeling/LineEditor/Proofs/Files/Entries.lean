import LineEditor.Files.Path
import LineEditor.Proofs.Text.Fields

/-! Entries of a tree that are put, taken away and moved. Only what stands at the places concerned
becomes another, and what was put at a free place can be taken away or moved without a trace.
-/

namespace LineEditor.FileTree

variable {tree : FileTree} {place other : Place} {entry old : Entry} {content : ByteArray}
  {rights : Rights} {right : Right}

----------------------------------------------------------------------------------------
-- Lists of entries
----------------------------------------------------------------------------------------

theorem lookup_replace_self (entries : List (Place × Entry)) (place : Place) (entry : Entry)
    : (entries.map fun item => if item.1 = place then (place, entry) else item).lookup place
      = (entries.lookup place).map fun _ => entry := by
  induction entries with
  | nil => rfl
  | cons first entries ih =>
      obtain ⟨known, old⟩ := first
      by_cases here : known = place
      · simp [here]
      · have passed : (place == known) = false := beq_eq_false_iff_ne.mpr (Ne.symm here)
        simp only [List.map_cons, if_neg here, List.lookup_cons, passed]
        exact ih

theorem lookup_replace_of_ne (entries : List (Place × Entry)) (entry : Entry)
    (elsewhere : other ≠ place)
    : (entries.map fun item => if item.1 = place then (place, entry) else item).lookup other
      = entries.lookup other := by
  induction entries with
  | nil => rfl
  | cons first entries ih =>
      obtain ⟨known, old⟩ := first
      rw [List.map_cons, List.lookup_cons]
      by_cases here : known = place
      · have passed : (other == place) = false := beq_eq_false_iff_ne.mpr elsewhere
        simp only [here, if_true, passed, List.lookup_cons, ih]
      · simp only [here, if_false, List.lookup_cons, ih]

/-- A place without an entry is none of the places in the list. -/
theorem ne_of_lookup_eq_none {entries : List (Place × Entry)} {item : Place × Entry}
    (free : entries.lookup place = none) (member : item ∈ entries)
    : item.1 ≠ place := by
  intro same
  have passed := List.lookup_eq_none_iff.mp free item member
  simp [same] at passed

theorem replace_eq_self {entries : List (Place × Entry)} (free : entries.lookup place = none)
    (entry : Entry)
    : (entries.map fun item => if item.1 = place then (place, entry) else item) = entries := by
  refine (List.map_congr_left fun item member => ?_).trans (List.map_id entries)
  exact if_neg (ne_of_lookup_eq_none free member)

theorem filter_eq_self_of_lookup {entries : List (Place × Entry)}
    (free : entries.lookup place = none)
    : (entries.filter fun item => item.1 ≠ place) = entries :=
  List.filter_eq_self.mpr fun _ member => by simpa using ne_of_lookup_eq_none free member

----------------------------------------------------------------------------------------
-- Entries that are put
----------------------------------------------------------------------------------------

/-- What is put at a place is found there, unless the place is the root. -/
theorem entry_put_self (filled : place ≠ []) : (tree.put place entry).at? place = some entry := by
  have below : ¬ place.isEmpty = true := by simpa using filled
  unfold at? put
  rw [if_neg below]
  cases found : tree.entries.lookup place with
  | some old =>
      rw [if_pos (by rfl), lookup_replace_self, found]
      rfl
  | none => simp [List.lookup_append, found]

/-- Everywhere else the same is found as before. -/
theorem entry_put_of_ne (elsewhere : other ≠ place)
    : (tree.put place entry).at? other = tree.at? other := by
  have passed : (other == place) = false := beq_eq_false_iff_ne.mpr elsewhere
  unfold at? put
  split
  · rfl
  · dsimp only
    split
    · exact lookup_replace_of_ne tree.entries entry elsewhere
    · simp [List.lookup_append, List.lookup_cons, passed]

/-- A place where nothing stands is not the root, and has no entry. -/
theorem free_of_entry_eq_none (free : tree.at? place = none)
    : place ≠ [] ∧ tree.entries.lookup place = none := by
  unfold at? at free
  split at free
  · cases free
  · next filled => exact ⟨by simpa using filled, free⟩

/-- Of two entries that are put at a place the second one stays. -/
theorem put_put : (tree.put place old).put place entry = tree.put place entry := by
  unfold put
  cases found : tree.entries.lookup place with
  | some there =>
      simp only [Option.isSome_some, if_true, lookup_replace_self, found, Option.map_some,
        List.map_map]
      congr 1
      refine List.map_congr_left fun item _ => ?_
      by_cases here : item.1 = place <;> simp [here]
  | none =>
      have last : (tree.entries ++ [(place, old)]).lookup place = some old := by
        simp [List.lookup_append, found]
      simp [last, replace_eq_self found]

/-- What was put at a free place can be taken away again. -/
theorem remove_put (free : tree.at? place = none) : (tree.put place entry).remove place = tree := by
  obtain ⟨_, free⟩ := free_of_entry_eq_none free
  have same := filter_eq_self_of_lookup free
  simp only [put, remove, free, Option.isSome_none, Bool.false_eq_true, if_false,
    List.filter_append, same]
  simp

/-- What was put at a free place can be moved from there. -/
theorem move_put (free : tree.at? place = none)
    : (tree.put place entry).move place other = tree.put other entry := by
  obtain ⟨filled, _⟩ := free_of_entry_eq_none free
  simp only [move, entry_put_self filled, remove_put free]

----------------------------------------------------------------------------------------
-- Rights
----------------------------------------------------------------------------------------

/-- A place where a file can be put: it is not the root, and no directory stands there. -/
structure Free (tree : FileTree) (place : Place) : Prop where
  filled : place ≠ []
  apart : ∀ rights, tree.at? place ≠ some (.directory rights)

theorem free_of_none (none : tree.at? place = none) : tree.Free place :=
  ⟨(free_of_entry_eq_none none).1, by simp [none]⟩

theorem free_of_file (file : tree.at? place = some (.file content rights)) : tree.Free place := by
  refine ⟨?_, by simp [file]⟩
  rintro rfl
  cases file

/-- A place where a directory grants a right holds a directory. -/
theorem exists_of_requireRight (granted : tree.requireRight right place = .ok ())
    : ∃ rights, tree.at? place = some (.directory rights) := by
  unfold requireRight at granted
  split at granted
  · next rights found => exact ⟨rights, found⟩
  · cases granted
  · cases granted

/-- Directories stay apart from a place where a file can be put. -/
theorem Free.ne_of_requireRight (free : tree.Free place)
    (granted : tree.requireRight right other = .ok ())
    : other ≠ place := by
  obtain ⟨rights, found⟩ := exists_of_requireRight granted
  rintro rfl
  exact free.apart rights found

theorem requireRight_put_of_ne (elsewhere : other ≠ place)
    : (tree.put place entry).requireRight right other = tree.requireRight right other := by
  unfold requireRight
  rw [entry_put_of_ne elsewhere]
  rfl

end LineEditor.FileTree
