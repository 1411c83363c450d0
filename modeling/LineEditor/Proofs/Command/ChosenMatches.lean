import LineEditor.Proofs.Command.WrittenOptions
import LineEditor.Proofs.Pattern.Cuts

/-! Chosen matches. A substitution cuts a line at its successive matches and puts its replacement,
as it is, in the place of those that its options choose. The rest of the line stays.
-/

namespace LineEditor

open Pattern (Hit Pieces Span)

----------------------------------------------------------------------------------------
-- Replaced pieces
----------------------------------------------------------------------------------------

/-- The second pieces are the first ones with a replacement in the place of the chosen hits, where
the first hit has number one. No gap is altered.
-/
structure Pattern.Pieces.Replaces (before : Pieces) (chosen : Nat → Prop) (replacement : List Char)
    (after : Pieces) : Prop where
  gaps : after.hits.map Hit.gap = before.hits.map Hit.gap
  tail : after.tail = before.tail
  replaced
    : ∀ index hit, chosen (index + 1) → after.hits[index]? = some hit → hit.text = replacement
  kept : ∀ index, ¬ chosen (index + 1) → after.hits[index]? = before.hits[index]?

/-- Where no hit is chosen, all pieces stay. -/
theorem Pattern.Pieces.Replaces.eq_of_kept {before after : Pieces} {chosen : Nat → Prop}
    {replacement : List Char} (replaces : before.Replaces chosen replacement after)
    (none : ∀ number, 0 < number → number ≤ before.hits.length → ¬ chosen number)
    : after = before := by
  have count : after.hits.length = before.hits.length := by
    simpa using congrArg List.length replaces.gaps
  have hits : after.hits = before.hits := by
    refine List.ext_getElem? fun index => ?_
    by_cases inside : index < before.hits.length
    · exact replaces.kept index (none _ (Nat.succ_pos index) inside)
    · have outside := Nat.le_of_not_lt inside
      rw [List.getElem?_eq_none outside, List.getElem?_eq_none (count ▸ outside)]
  cases before
  cases after
  exact congrArg₂ Pieces.mk hits replaces.tail

namespace Substitution

/-- The pieces of a line with the selected hits replaced. -/
def replace (substitution : Substitution) (pieces : Pieces) : Pieces :=
  { pieces with
    hits := pieces.hits.mapIdx fun index hit =>
      if substitution.options.selects index then ⟨hit.gap, substitution.replacement.toList⟩
      else hit }

/-- Putting a line together with replacements is putting the replaced pieces together. -/
theorem rebuild_eq (substitution : Substitution) (pieces : Pieces)
    : substitution.rebuild pieces = (substitution.replace pieces).text := by
  simp only [rebuild, replace, Pieces.text, List.mapIdx_eq_zipIdx_map, List.flatMap_map]
  refine congrArg (· ++ pieces.tail) (congrArg (List.flatMap · _) (funext fun counted => ?_))
  cases counted with
  | mk hit index =>
      dsimp only
      split <;> rfl

theorem apply_of_hits (substitution : Substitution) {line : String}
    (hits : (substitution.pattern.cut line).hits ≠ [])
    : substitution.apply line
      = some (String.ofList (substitution.replace (substitution.pattern.cut line)).text) := by
  rw [← rebuild_eq]
  exact if_neg (by simpa using hits)

/-- What options select is what they choose as they are written. -/
theorem replaces_replace {substitution : Substitution} {written : List Char}
    (asked : SubstituteOptions.Asked written substitution.options) (pieces : Pieces)
    : pieces.Replaces (SubstituteOptions.Chooses written) substitution.replacement.toList
        (substitution.replace pieces) := by
  refine ⟨?_, rfl, ?_, ?_⟩
  · refine List.ext_getElem? fun index => ?_
    simp only [replace, List.getElem?_map, List.getElem?_mapIdx, Option.map_map]
    refine congrArg (pieces.hits[index]?.map ·) (funext fun hit => ?_)
    dsimp only [Function.comp_apply]
    split <;> rfl
  · intro index hit chosen found
    have selects := (asked.selects_iff index).mpr chosen
    simp only [replace, List.getElem?_mapIdx, selects, if_true] at found
    obtain ⟨before, _, rfl⟩ := Option.map_eq_some_iff.mp found
    rfl
  · intro index other
    have selects : ¬ substitution.options.selects index = true :=
      fun selects => other ((asked.selects_iff index).mp selects)
    simp [replace, List.getElem?_mapIdx, selects]

/-- A substitution rewrites the matches that its options choose, and nothing else. The successive
matches of a line lie in it one behind the other, so that the line is made of gaps and matches. A
line without a match has no result. Otherwise the result is made of the same gaps, with the
replacement as it is in the place of the matches that the options choose as they are written, by a
`g` or by their digits; where they choose none, the result is the line. Other options with the same
letters are read alike, whatever the order, the repetitions and the blanks.
-/
theorem apply_replaces_chosen {substitution : Substitution} {written : List Char}
    (accepted : SubstituteOptions.read written = .ok substitution.options) (line : String)
    : (∃ spans,
        (∀ others, substitution.pattern.Matches line others ↔ others = spans)
        ∧ Span.Apart line.toList.length 0 spans
        ∧ (Pieces.at line.toList 0 spans).text = line.toList
        ∧ (substitution.apply line = none ↔ spans = [])
        ∧ (spans ≠ []
          → ∃ after,
              (Pieces.at line.toList 0 spans).Replaces (SubstituteOptions.Chooses written)
                substitution.replacement.toList after
              ∧ substitution.apply line = some (String.ofList after.text)
              ∧ ((∀ number,
                  0 < number
                  → number ≤ spans.length
                  → ¬ SubstituteOptions.Chooses written number)
                → substitution.apply line = some line)))
      ∧ ∀ other,
          SubstituteOptions.SameLetters written other
          → SubstituteOptions.read other = .ok substitution.options := by
  have asked := (SubstituteOptions.read_eq_ok_iff.mp accepted).2
  refine ⟨?_, fun other same => SubstituteOptions.read_of_sameLetters same accepted⟩
  obtain ⟨spans, found, cut⟩ := Pattern.exists_matches_cut substitution.pattern line
  have apart := found.apart (Nat.zero_le _)
  have whole : (Pieces.at line.toList 0 spans).text = line.toList := Pieces.text_at apart
  have count : (Pieces.at line.toList 0 spans).hits.length = spans.length := Pieces.length_hits_at
  refine ⟨spans, fun others => ⟨fun also => also.unique found, ?_⟩, apart, whole, ?_, ?_⟩
  · rintro rfl
    exact found
  · rw [apply_eq_none_iff, cut, Pieces.hits_at_eq_nil_iff]
  · intro some
    have hits : (substitution.pattern.cut line).hits ≠ [] := by
      rwa [ne_eq, cut, Pieces.hits_at_eq_nil_iff]
    have applied := apply_of_hits substitution hits
    rw [cut] at applied
    have replaces := replaces_replace asked (Pieces.at line.toList 0 spans)
    refine ⟨_, replaces, applied, fun none => ?_⟩
    rw [applied, replaces.eq_of_kept (count ▸ none), whole, String.ofList_toList]

/-- Of three matches, the first and the last of which are empty, the options choose these two. The
same options are read without the blanks and the repetition.
-/
theorem apply_replaces_chosen_of_three
    : ∃ substitution : Substitution,
        Pattern.compile false "o*" = .ok substitution.pattern
        ∧ SubstituteOptions.read "3 1 1".toList = .ok substitution.options
        ∧ (∃ spans after,
            substitution.pattern.Matches "éoob" spans
            ∧ (Pieces.at "éoob".toList 0 spans).Replaces (SubstituteOptions.Chooses "3 1 1".toList)
              "-".toList after
            ∧ String.ofList after.text = "-éoob-")
        ∧ SubstituteOptions.read "13".toList = .ok substitution.options := by
  let substitution : Substitution := {
    pattern := ⟨"o*", ⟨#[.accept, .fork 2 0, .one ⟨[(111, 111)]⟩ 1], 1⟩⟩
    replacement := "-"
    options := { chosen := 5 }
  }
  have compiles : Pattern.compile false "o*" = .ok substitution.pattern := by decide +kernel
  have accepted : SubstituteOptions.read "3 1 1".toList = .ok substitution.options := by
    decide +kernel
  have result : substitution.apply "éoob" = some "-éoob-" := by decide +kernel
  have same : SubstituteOptions.SameLetters "3 1 1".toList "13".toList := by
    intro letter filled
    have other : letter ≠ ' ' := by
      rintro rfl
      cases filled
    simpa [other] using or_comm
  obtain ⟨⟨spans, found, _, _, none, some⟩, others⟩ := apply_replaces_chosen accepted "éoob"
  have matched : spans ≠ [] := fun empty => by simp [none.mpr empty] at result
  obtain ⟨after, replaces, applied, _⟩ := some matched
  exact ⟨substitution, compiles, accepted,
    ⟨spans, after, (found spans).mpr rfl, replaces, Option.some.inj (applied.symm.trans result)⟩,
    others _ same⟩

end Substitution

end LineEditor
