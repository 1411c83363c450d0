import LineEditor.Files.Storage
import LineEditor.Proofs.Files.Paths

/-! Files that paths denote. A path denotes the file that it leads to. One that leads nowhere denotes
what its last part names in the directory that the others lead to: nothing yet, or a link that
cannot be followed. In any case it leads to a file that is put there.
-/

namespace LineEditor.FileTree

variable {tree : FileTree} {place other parent draft next : Place} {path name : String}
  {parts segments : List String} {content new : ByteArray} {rights : Rights}
  {jump : Place → String → Except FileFault Place}

----------------------------------------------------------------------------------------
-- Last parts of paths
----------------------------------------------------------------------------------------

/-- What a path leads to is there, by induction on its parts. -/
theorem isThere_of_followParts (led : tree.followParts jump place parts = .ok next)
    : tree.isThere next = true := by
  induction parts generalizing place with
  | nil =>
      unfold followParts at led
      split at led
      · next there =>
          cases led
          exact there
      · cases led
  | cons part parts ih =>
      obtain ⟨between, _, rest⟩ := bind_eq_ok_iff.mp led
      exact ih rest

theorem isThere_of_jump {depth : Nat} {target : String}
    (led : tree.jump depth place target = .ok next)
    : tree.isThere next = true := by
  cases depth with
  | zero => cases led
  | succ depth =>
      unfold FileTree.jump at led
      split at led
      · cases led
      · exact isThere_of_followParts led

/-- A last part is followed from where the others lead. -/
theorem followParts_concat (led : tree.followParts jump place segments = .ok parent)
    : tree.followParts jump place (segments ++ [name])
      = tree.descend jump parent name >>= fun next => tree.followParts jump next [] := by
  induction segments generalizing place with
  | nil =>
      unfold followParts at led
      split at led
      · cases led
        rfl
      · cases led
  | cons segment segments ih =>
      obtain ⟨between, first, rest⟩ := bind_eq_ok_iff.mp led
      rw [List.cons_append, followParts, first]
      exact ih rest

theorem locate_eq (followed : requirePath path = .ok ())
    : tree.locate path = tree.follow (origin tree.working path).1 (origin tree.working path).2 := by
  unfold locate
  rw [followed]
  rfl

/-- The path leads to a directory that can be searched, and has one more part behind it, which can
name a file there.
-/
structure Names (tree : FileTree) (path : String) (parent : Place) (name : String) : Prop where
  followed : requirePath path = .ok ()
  leads
    : ∃ segments,
        (origin tree.working path).2 = segments ++ [name]
        ∧ tree.follow (origin tree.working path).1 segments = .ok parent
  searched : tree.requireRight .search parent = .ok ()
  proper : name ≠ "" ∧ name ≠ "." ∧ name ≠ ".."
  short : ¬ name.utf8ByteSize > nameLimit

theorem Names.descend_eq (names : tree.Names path parent name)
    : tree.descend jump parent name = tree.enter jump parent name := by
  obtain ⟨rights, found⟩ := exists_of_requireRight names.searched
  have searched := names.searched
  obtain ⟨filled, single, double⟩ := names.proper
  unfold requireRight at searched
  rw [found] at searched
  dsimp only at searched
  split at searched
  · next may => simp [descend, found, filled, single, double, names.short, may]
  · cases searched

theorem Names.locate_eq (names : tree.Names path parent name)
    : tree.locate path
      = tree.enter (tree.jump linkLimit) parent name >>= fun next =>
          tree.followParts (tree.jump linkLimit) next [] := by
  obtain ⟨segments, parts, leads⟩ := names.leads
  rw [FileTree.locate_eq names.followed, parts, follow, followParts_concat leads, names.descend_eq]

/-- A path has one last part, and what is in front of it leads to one directory. -/
theorem Names.unique {directory : Place} {last : String} (first : tree.Names path parent name)
    (second : tree.Names path directory last)
    : parent = directory ∧ name = last := by
  obtain ⟨front, parts, leads⟩ := first.leads
  obtain ⟨segments, same, goes⟩ := second.leads
  rw [parts] at same
  obtain ⟨rfl, rfl⟩ : front = segments ∧ name = last := by simpa using same
  rw [leads] at goes
  cases goes
  exact ⟨rfl, rfl⟩

/-- Where a path leads nowhere although its last part can name a file, there is nothing, or a link
that cannot be followed.
-/
theorem Names.vacant (names : tree.Names path parent name)
    (lost : ∀ place, tree.locate path ≠ .ok place)
    : tree.at? (parent ++ [name]) = none
      ∨ ∃ target,
          tree.at? (parent ++ [name]) = some (.link target)
          ∧ ∀ next, tree.jump linkLimit parent target ≠ .ok next := by
  rw [names.locate_eq] at lost
  cases found : tree.at? (parent ++ [name]) with
  | none => exact Or.inl rfl
  | some entry =>
      cases entry with
      | file | directory =>
          refine absurd ?_ (lost (parent ++ [name]))
          simp [enter, found, followParts, isThere, bind, Except.bind]
      | link target =>
          refine Or.inr ⟨target, rfl, fun next led => lost next ?_⟩
          have there := isThere_of_jump led
          simp [enter, found, led, followParts, there, bind, Except.bind]

theorem Names.ends (names : tree.Names path parent name)
    (lost : ∀ place, tree.locate path ≠ .ok place)
    : tree.Ends (parent ++ [name]) := by
  rcases names.vacant lost with none | ⟨target, link, astray⟩
  · refine ⟨free_of_none none, ?_⟩
    intro target next link
    rw [none] at link
    cases link
  · refine ⟨⟨by simp, by simp [link]⟩, ?_⟩
    intro other next found
    rw [link] at found
    cases found
    rw [List.dropLast_concat]
    exact astray next

/-- A path that leads nowhere although its last part can name a file leads to a file that is put
there.
-/
theorem Names.locate_put (names : tree.Names path parent name)
    (lost : ∀ place, tree.locate path ≠ .ok place)
    : (tree.put (parent ++ [name]) (.file new rights)).locate path = .ok (parent ++ [name]) := by
  have ends := names.ends lost
  have same : (tree.put (parent ++ [name]) (.file new rights)).Names path parent name := by
    obtain ⟨segments, parts, leads⟩ := names.leads
    constructor
    · exact names.followed
    · exact ⟨segments, parts, ends.follow_put leads⟩
    · rw [requireRight_put_of_ne (ends.ne_of_requireRight names.searched)]
      exact names.searched
    · exact names.proper
    · exact names.short
  have there : (tree.put (parent ++ [name]) (.file new rights)).at? (parent ++ [name])
      = some (.file new rights) :=
    entry_put_self ends.filled
  simp [same.locate_eq, enter, there, followParts, isThere, bind, Except.bind]

/-- A path with a last part has no empty parts at its end. -/
theorem dropWhile_of_getLast?_ne {parts : List String} (named : parts.getLast? ≠ some "")
    : (parts.reverse.dropWhile (· == "")).reverse = parts := by
  rw [← List.head?_reverse] at named
  cases turned : parts.reverse with
  | nil => simpa using turned.symm
  | cons last front =>
      rw [turned] at named
      rw [List.dropWhile_cons_of_neg (by simpa using named), ← turned, List.reverse_reverse]

/-- The last place of a path is that of a name in a directory, which a draft has no part in. -/
theorem names_of_lastPlace {start : Place} (free : tree.at? draft = none)
    (found : (tree.put draft (.file new rights)).lastPlace start parts = .ok place)
    : ∃ segments parent name,
        parts = segments ++ [name]
        ∧ place = parent ++ [name]
        ∧ tree.follow start segments = .ok parent
        ∧ tree.requireRight .search parent = .ok ()
        ∧ (name ≠ "" ∧ name ≠ "." ∧ name ≠ "..")
        ∧ ¬ name.utf8ByteSize > nameLimit := by
  obtain ⟨parent, leads, rest⟩ := bind_eq_ok_iff.mp found
  obtain ⟨_, searched, result⟩ := bind_eq_ok_iff.mp rest
  clear found rest
  split at result
  · cases result
  next name last =>
  split_ifs at result with dotted long trailing
  cases result
  rw [dropWhile_of_getLast?_ne trailing] at leads last
  obtain ⟨segments, rfl⟩ := List.getLast?_eq_some_iff.mp last
  rw [List.dropLast_concat] at leads
  have draftFile : (tree.put draft (.file new rights)).Free draft :=
    free_of_file (entry_put_self (free_of_none free).filled)
  have elsewhere := draftFile.ne_of_requireRight searched
  rw [requireRight_put_of_ne elsewhere] at searched
  refine ⟨segments, parent, name, rfl, rfl, ?_, searched, ?_, long⟩
  · exact (follow_of_put free leads).resolve_left elsewhere
  · simp only [Bool.or_eq_true, decide_eq_true_eq, not_or] at dotted
    refine ⟨?_, dotted⟩
    rintro rfl
    simp at trailing

/-- A file is renamed to the place of a name in a directory, which a draft has no part in. -/
theorem names_of_namedPlace (free : tree.at? draft = none)
    (found : (tree.put draft (.file new rights)).namedPlace (.lost path) = .ok place)
    : ∃ parent name, tree.Names path parent name ∧ place = parent ++ [name] := by
  unfold namedPlace at found
  dsimp only at found
  split at found
  · cases found
  obtain ⟨_, followed, result⟩ := bind_eq_ok_iff.mp found
  obtain ⟨segments, parent, name, parts, rfl, leads, searched, proper, short⟩ :=
    names_of_lastPlace free result
  exact ⟨parent, name, ⟨followed, ⟨segments, parts, leads⟩, searched, proper, short⟩, rfl⟩

----------------------------------------------------------------------------------------
-- Denoted files
----------------------------------------------------------------------------------------

/-- The path denotes the file at a place: one that it leads to, one that is missing in a directory, or
one that is to take the place of a link there which leads nowhere.
-/
inductive Denotes (tree : FileTree) (path : String) : Place → Prop
  | known {place : Place} {content : ByteArray} {rights : Rights}
    (leads : tree.locate path = .ok place) (there : tree.at? place = some (.file content rights))
    : Denotes tree path place
  | new {parent : Place} {name : String} (lost : ∀ place, tree.locate path ≠ .ok place)
    (names : tree.Names path parent name) (missing : tree.at? (parent ++ [name]) = none)
    : Denotes tree path (parent ++ [name])
  | astray {parent : Place} {name target : String} (lost : ∀ place, tree.locate path ≠ .ok place)
    (names : tree.Names path parent name)
    (link : tree.at? (parent ++ [name]) = some (.link target))
    : Denotes tree path (parent ++ [name])

theorem Names.denotes (names : tree.Names path parent name)
    (lost : ∀ place, tree.locate path ≠ .ok place)
    : tree.Denotes path (parent ++ [name]) := by
  rcases names.vacant lost with missing | ⟨target, link, _⟩
  · exact .new lost names missing
  · exact .astray lost names link

/-- What a path denotes is what it leads to, or else what it names. -/
theorem Denotes.led_or_named (denotes : tree.Denotes path place)
    : tree.locate path = .ok place
      ∨ (∀ place, tree.locate path ≠ .ok place)
        ∧ ∃ parent name, tree.Names path parent name ∧ place = parent ++ [name] := by
  cases denotes with
  | known leads there => exact Or.inl leads
  | new lost names | astray lost names => exact Or.inr ⟨lost, _, _, names, rfl⟩

/-- A file that a path denotes is what it leads to. -/
theorem Denotes.leads_of_file (denotes : tree.Denotes path place)
    (file : tree.at? place = some (.file content rights))
    : tree.locate path = .ok place := by
  cases denotes with
  | known leads => exact leads
  | new _ _ other | astray _ _ other =>
      rw [file] at other
      cases other

/-- A path denotes one file at most. -/
theorem Denotes.unique (first : tree.Denotes path place) (second : tree.Denotes path other)
    : place = other := by
  rcases first.led_or_named with leads | ⟨lost, parent, name, names, rfl⟩
  · rcases second.led_or_named with goes | ⟨fails, _⟩
    · exact Except.ok.inj (leads.symm.trans goes)
    · exact absurd leads (fails place)
  · rcases second.led_or_named with goes | ⟨_, directory, last, same, rfl⟩
    · exact absurd goes (lost other)
    · obtain ⟨rfl, rfl⟩ := names.unique same
      rfl

/-- No path goes on from a file that a path denotes. -/
theorem Denotes.ends (denotes : tree.Denotes path place) : tree.Ends place := by
  cases denotes with
  | known leads there => exact ends_of_file there
  | new lost names | astray lost names => exact names.ends lost

/-- A path leads to the file that it denotes once that has been put there. -/
theorem Denotes.locate_put (denotes : tree.Denotes path place)
    : (tree.put place (.file new rights)).locate path = .ok place := by
  rcases denotes.led_or_named with leads | ⟨lost, parent, name, names, rfl⟩
  · exact denotes.ends.locate_put leads
  · exact names.locate_put lost

end LineEditor.FileTree
