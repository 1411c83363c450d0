import LineEditor.Command.Substitution
import LineEditor.Proofs.Pattern.Matches

/-! Cuts of a line at its matches. Cutting takes all successive matches, because it only ends where
no further match is found. So a substitution has a result for the lines that match and for no
others, and the result only holds characters of the line and of the replacement.
-/

namespace LineEditor

namespace Pattern

variable {pattern : Pattern} {line : List Char} {position : Nat} {span : Span}

theorem Span.behind_eq_iff : span.behind position = ⟨position, 0⟩ ↔ span = ⟨0, 0⟩ := by
  obtain ⟨skipped, length⟩ := span
  simp [behind]

theorem Span.behind_behind (first second : Nat)
    : (span.behind second).behind first = span.behind (first + second) := by
  simp [behind, Nat.add_assoc]

/-- A match is empty at the position exactly if it is empty at the start of the text behind. -/
theorem map_behind_eq_iff {found : Option Span}
    : found.map (Span.behind position) = some ⟨position, 0⟩ ↔ found = some ⟨0, 0⟩ := by
  cases found with
  | none => simp
  | some span => simp [Span.behind_eq_iff]

theorem Program.searchNext_eq (program : Program) (before : Option Char) (ended : Bool)
    (text : List Char)
    : program.searchNext before ended text
      = if ended && program.search before text = some ⟨0, 0⟩ then
          text.head?.bind fun c => (program.search (some c) text.tail).map (Span.behind 1)
        else program.search before text := by
  unfold searchNext
  split
  · next found =>
      cases ended with
      | false => simp [found]
      | true =>
          have shift
              : (fun span : Span => (⟨span.skipped + 1, span.length⟩ : Span)) = Span.behind 1 :=
            funext fun span => by simp [Span.behind, Nat.add_comm]
          cases text with
          | nil => simp [found]
          | cons c rest => simp [found, shift]
  · next other =>
      rw [if_neg]
      simpa using fun _ => other

/-- From the position behind a character on, a search sees this character before it. Behind the end
of the line there is nothing to search.
-/
theorem findFrom_succ
    : pattern.findFrom line (position + 1)
      = (line.drop position).head?.bind fun c =>
          (pattern.program.search (some c) (line.drop position).tail).map
            (Span.behind (position + 1)) := by
  unfold findFrom
  by_cases within : position + 1 ≤ line.length
  · rw [if_pos within, List.take_succ_eq_append_getElem within, List.getLast?_concat,
      List.drop_eq_getElem_cons within]
    rfl
  · rw [if_neg within, List.drop_eq_nil_of_le (Nat.le_of_not_lt within)]
    rfl

/-- The next match of the text behind a position is the next match of the line from there on. -/
theorem nextMatch_eq (pattern : Pattern) (ended : Bool) (inside : position ≤ line.length)
    : pattern.nextMatch line position ended
      = (pattern.program.searchNext (line.take position).getLast? ended (line.drop position)).map
          (Span.behind position) := by
  have here
      : pattern.findFrom line position
        = (pattern.program.search (line.take position).getLast? (line.drop position)).map
            (Span.behind position) :=
    if_pos inside
  rw [nextMatch, Program.searchNext_eq, here, findFrom_succ]
  simp only [map_behind_eq_iff]
  split
  · cases (line.drop position).head? with
    | none => rfl
    | some c => simp [Function.comp_def, Span.behind_behind]
  · rfl

/-- What was found before, followed by the pieces of the line from a position on. -/
def Pieces.after (hits : List Hit) (pieces : Pieces) : Pieces :=
  { pieces with hits := hits.reverse ++ pieces.hits }

/-- The hit at a span that lies behind a position, with the gap before it. -/
theorem Pieces.after_at (hits : List Hit)
    : (Pieces.at line position (span.behind position :: spans)).after hits
      = (Pieces.at line (span.behind position).stop spans).after
          (⟨(line.drop position).take span.skipped,
            ((line.drop position).drop span.skipped).take span.length⟩ :: hits) := by
  simp [Pieces.at, after, Span.behind, Span.stop, List.extract_eq_take_drop]

/-- The character before the end of a stretch that lies behind a position. -/
theorem getLast?_take_stop
    : (((line.drop position).take span.skipped
          ++ ((line.drop position).drop span.skipped).take span.length).getLast?).or
        (line.take position).getLast?
      = (line.take (span.behind position).stop).getLast? := by
  rw [← List.getLast?_append, ← List.take_add, ← List.take_add]
  simp only [Span.behind, Span.stop, Nat.add_assoc]

/-- Cutting the text behind a position takes all successive matches from there on, if there are
turns enough: one to find that there is no further match and one for each match, of which all but
the first one take a character. By induction on the turns.
-/
theorem exists_matchesFrom_of_cutFrom {turns : Nat} (pattern : Pattern) (ended : Bool)
    (hits : List Hit) (inside : position ≤ line.length)
    (enough : line.length - position + (if ended then 1 else 2) ≤ turns)
    : ∃ spans,
        pattern.MatchesFrom line position ended spans
        ∧ pattern.program.cutFrom turns (line.take position).getLast? ended hits
            (line.drop position)
          = (Pieces.at line position spans).after hits := by
  induction turns generalizing position ended hits with
  | zero => split at enough <;> omega
  | succ turns ih =>
      have next := nextMatch_eq pattern ended inside
      unfold Program.cutFrom
      cases found
        : pattern.program.searchNext (line.take position).getLast? ended (line.drop position) with
      | none =>
          rw [found] at next
          exact ⟨[], .last next, by simp [Pieces.at, Pieces.after]⟩
      | some span =>
          rw [found] at next
          obtain ⟨after, stop, taken⟩ := nextMatch_inside next
          have advances : position ≤ (span.behind position).stop :=
            Nat.le_trans after (Nat.le_add_right _ _)
          have left : line.length - (span.behind position).stop + 1 ≤ turns := by
            cases ended with
            | false =>
                simp only [Bool.false_eq_true, if_false] at enough
                omega
            | true =>
                have taken := taken rfl
                simp only [if_true] at enough
                omega
          obtain ⟨spans, later, cut⟩ := ih true _ stop left
          refine ⟨_, .next next later, ?_⟩
          rw [Pieces.after_at, ← cut, ← getLast?_take_stop]
          simp only [List.drop_drop, Span.behind, Span.stop, Nat.add_assoc]

/-- A line is cut at its successive matches. -/
theorem exists_matches_cut (pattern : Pattern) (line : String)
    : ∃ spans, pattern.Matches line spans ∧ pattern.cut line = Pieces.at line.toList 0 spans := by
  obtain ⟨spans, found, cut⟩ :=
    exists_matchesFrom_of_cutFrom pattern false [] (Nat.zero_le line.toList.length)
      (Nat.le_refl _)
  exact ⟨spans, found, cut⟩

/-- A line is cut without a hit exactly if no part of it matches. -/
theorem hits_cut_eq_nil_iff (pattern : Pattern) (line : String)
    : (pattern.cut line).hits = [] ↔ pattern.isMatch line = false := by
  obtain ⟨spans, found, cut⟩ := exists_matches_cut pattern line
  rw [cut, Pieces.hits_at_eq_nil_iff, found.eq_nil_iff]

/-- The pieces of a line make up the line. -/
theorem text_cut (pattern : Pattern) (line : String) : (pattern.cut line).text = line.toList := by
  obtain ⟨spans, found, cut⟩ := exists_matches_cut pattern line
  rw [cut, Pieces.text_at (found.apart (Nat.zero_le _)), List.drop_zero]

end Pattern

/-- A substitution has no result exactly for the lines that are cut without a hit. -/
theorem Substitution.apply_eq_none_iff (substitution : Substitution) (line : String)
    : substitution.apply line = none ↔ (substitution.pattern.cut line).hits = [] := by
  unfold apply
  dsimp only
  split
  · next empty => simpa using empty
  · next hits => simpa using hits

/-- A substitution has a result exactly for the lines that match. -/
theorem Substitution.isSome_apply (substitution : Substitution) (line : String)
    : (substitution.apply line).isSome = substitution.pattern.isMatch line := by
  have unmatched := substitution.apply_eq_none_iff line
  rw [Pattern.hits_cut_eq_nil_iff] at unmatched
  cases applied : substitution.apply line with
  | none => exact (unmatched.mp applied).symm
  | some text =>
      have matched : ¬ substitution.pattern.isMatch line = false := by
        simpa [applied] using unmatched
      exact (eq_true_of_ne_false matched).symm

/-- Every character of the result is one of the line or of the replacement. -/
theorem Substitution.subset_of_apply {substitution : Substitution} {line text : String}
    (applied : substitution.apply line = some text)
    : text.toList ⊆ line.toList ++ substitution.replacement.toList := by
  unfold apply at applied
  dsimp only at applied
  split at applied
  · cases applied
  · obtain rfl := Option.some.inj applied
    rw [← substitution.pattern.text_cut line, String.toList_ofList, Pattern.Pieces.text, rebuild]
    intro c member
    rcases List.mem_append.mp member with replaced | tail
    · obtain ⟨⟨hit, index⟩, among, piece⟩ := List.mem_flatMap.mp replaced
      have hits : hit ∈ (substitution.pattern.cut line).hits := List.fst_mem_of_mem_zipIdx among
      rcases List.mem_append.mp piece with gap | piece
      · simp only [List.mem_append, List.mem_flatMap]
        exact Or.inl (Or.inl ⟨hit, hits, Or.inl gap⟩)
      · split at piece
        · exact List.mem_append_right _ piece
        · simp only [List.mem_append, List.mem_flatMap]
          exact Or.inl (Or.inl ⟨hit, hits, Or.inr piece⟩)
    · simp only [List.mem_append]
      exact Or.inl (Or.inr tail)

end LineEditor
