import LineEditor.Pattern.Basic

/-! Successive matches of a line. A search finds a stretch of the text that it is given, because
every thread accepts at a position that it has reached. So the matches of a line lie in it one
behind the other, and they make up the line together with the gaps between them.
-/

namespace LineEditor.Pattern

----------------------------------------------------------------------------------------
-- Spans
----------------------------------------------------------------------------------------

/-- Where a stretch of a text ends. -/
def Span.stop (span : Span) : Nat :=
  span.skipped + span.length

/-- A stretch of the text behind a position, as a stretch of the whole text. -/
def Span.behind (position : Nat) (span : Span) : Span :=
  ⟨position + span.skipped, span.length⟩

/-- The spans lie in a text of this length from a position on, in order and without overlap. -/
def Span.Apart (length : Nat) : Nat → List Span → Prop
  | position, [] => position ≤ length
  | position, span :: spans => position ≤ span.skipped ∧ Apart length span.stop spans

/-- A text from a position on, cut at spans: the text of each with the gap before it. -/
def Pieces.at (text : List Char) : Nat → List Span → Pieces
  | position, [] => ⟨[], text.drop position⟩
  | position, span :: spans =>
      let later := Pieces.at text span.stop spans
      ⟨⟨text.extract position span.skipped, text.extract span.skipped span.stop⟩ :: later.hits,
        later.tail⟩

variable {text : List Char} {position : Nat} {spans : List Span}

theorem Pieces.length_hits_at : (Pieces.at text position spans).hits.length = spans.length := by
  induction spans generalizing position with
  | nil => rfl
  | cons span spans ih => simp [Pieces.at, ih]

theorem Pieces.hits_at_eq_nil_iff : (Pieces.at text position spans).hits = [] ↔ spans = [] := by
  rw [← List.length_eq_zero_iff, length_hits_at, List.length_eq_zero_iff]

/-- What is taken out of a text and the text behind it are the text from there on. -/
theorem extract_append_drop {start stop : Nat} (le : start ≤ stop)
    : text.extract start stop ++ text.drop stop = text.drop start := by
  have behind : text.drop stop = (text.drop start).drop (stop - start) := by
    rw [List.drop_drop, Nat.add_sub_cancel' le]
  rw [List.extract_eq_take_drop, behind, List.take_append_drop]

/-- Spans without overlap leave all of the text in the pieces. -/
theorem Pieces.text_at (apart : Span.Apart text.length position spans)
    : (Pieces.at text position spans).text = text.drop position := by
  induction spans generalizing position with
  | nil => rfl
  | cons span spans ih =>
      obtain ⟨before, later⟩ := apart
      have inside : span.skipped ≤ span.stop := Nat.le_add_right _ _
      have rest := ih later
      simp only [Pieces.text, Pieces.at, List.flatMap_cons, List.append_assoc] at rest ⊢
      rw [rest, extract_append_drop inside, extract_append_drop before]

----------------------------------------------------------------------------------------
-- Searches
----------------------------------------------------------------------------------------

/-- Every thread of the front began at the position or before it. -/
def Front.StartsBy (front : Front) (position : Nat) : Prop :=
  ∀ thread ∈ front.threads, thread.start ≤ position

variable {program : Program} {code : Array Instr} {sides : Neighbours} {front next : Front}
  {threads : List Thread} {stamp start : Nat} {before : Option Char} {best : Option Span}
  {span : Span}

theorem Front.StartsBy.succ (starts : front.StartsBy position) : front.StartsBy (position + 1) :=
  fun thread member => Nat.le_succ_of_le (starts thread member)

/-- Exploring adds threads with one start, by induction on its steps. -/
theorem Front.StartsBy.explore {steps : Nat} {stack : List Nat} (starts : front.StartsBy position)
    (le : start ≤ position)
    : (front.explore code sides stamp start steps stack).StartsBy position := by
  fun_induction Front.explore code sides stamp start steps stack front
  case case1 | case2 => exact starts
  case case3 ih | case4 ih | case5 ih | case7 ih => exact ih starts
  case case6 ih =>
    refine ih ?_
    intro thread member
    rcases List.mem_cons.mp member with rfl | member
    · exact le
    · exact starts thread member

theorem Front.StartsBy.enter {address : Nat} (starts : front.StartsBy position)
    (le : start ≤ position)
    : (front.enter code sides stamp start address).StartsBy position :=
  starts.explore le

/-- A thread that accepts has found the stretch from its start to the position, and the threads
that move on keep their starts. By induction on the threads.
-/
theorem Front.advance_of_startsBy (code : Array Instr) (text : List Char)
    (started : ∀ thread ∈ threads, thread.start ≤ position) (starts : next.StartsBy position)
    : (∀ span ∈ (next.advance code position text threads).1, span.stop = position)
      ∧ (next.advance code position text threads).2.StartsBy position := by
  induction threads generalizing next with
  | nil => exact ⟨nofun, starts⟩
  | cons thread threads ih =>
      have first : thread.start ≤ position := started thread List.mem_cons_self
      have others : ∀ other ∈ threads, other.start ≤ position := fun other member =>
        started other (List.mem_cons_of_mem thread member)
      unfold advance
      split
      · refine ⟨?_, starts⟩
        rintro span ⟨⟩
        exact Nat.add_sub_cancel' first
      · split
        · exact ih others (starts.enter first)
        · exact ih others starts
      · exact ih others starts

/-- One turn of a search: what has been found by the end of it, and the threads that it leaves for
the next position.
-/
def Program.turn (program : Program) (position : Nat) (before : Option Char) (front : Front)
    (best : Option Span) (text : List Char) : Option Span × Front :=
  let front :=
    if best.isNone then
      front.enter program.code ⟨before, text.head?⟩ (position + 1) position program.entry
    else front
  let (hit, next) := Front.advance program.code position text ⟨[], front.seen⟩ front.threads.reverse
  (hit.or best, next)

theorem Program.searchFrom_nil
    : program.searchFrom position before front best []
      = (program.turn position before front best []).1 :=
  rfl

theorem Program.searchFrom_cons (c : Char) (rest : List Char)
    : program.searchFrom position before front best (c :: rest)
      = let (found, next) := program.turn position before front best (c :: rest)
        if next.threads.isEmpty && found.isSome then found
        else program.searchFrom (position + 1) (some c) next found rest :=
  rfl

/-- After a turn all threads began by the position, and what was found ends by then. -/
theorem Program.turn_of_startsBy (program : Program) (before : Option Char) (text : List Char)
    (starts : front.StartsBy position) (earlier : ∀ span ∈ best, span.stop ≤ position)
    : (∀ span ∈ (program.turn position before front best text).1, span.stop ≤ position)
      ∧ (program.turn position before front best text).2.StartsBy position := by
  unfold turn
  generalize entered :
    (if best.isNone then
      front.enter program.code ⟨before, text.head?⟩ (position + 1) position program.entry
    else front) = start
  have starts : start.StartsBy position := by
    subst entered
    split
    · exact starts.enter (Nat.le_refl position)
    · exact starts
  have none : Front.StartsBy ⟨[], start.seen⟩ position := List.forall_mem_nil _
  obtain ⟨hits, next⟩ :=
    Front.advance_of_startsBy program.code text
      (fun thread member => starts thread (List.mem_reverse.mp member)) none
  refine ⟨?_, next⟩
  intro span found
  rcases Option.or_eq_some_iff.mp found with hit | ⟨_, same⟩
  · exact Nat.le_of_eq (hits span hit)
  · exact earlier span same

/-- A search that goes on finds a stretch of the text before its position or behind it. By
induction on the text that is left.
-/
theorem Program.stop_le_of_searchFrom (starts : front.StartsBy position)
    (earlier : ∀ span ∈ best, span.stop ≤ position)
    (found : program.searchFrom position before front best text = some span)
    : span.stop ≤ position + text.length := by
  induction text generalizing position before front best with
  | nil =>
      rw [searchFrom_nil] at found
      exact (turn_of_startsBy program before [] starts earlier).1 span found
  | cons c text ih =>
      obtain ⟨hits, next⟩ := turn_of_startsBy program before (c :: text) starts earlier
      rw [searchFrom_cons] at found
      dsimp only at found
      split at found
      · exact Nat.le_trans (hits span found) (Nat.le_add_right _ _)
      · have later := ih next.succ (fun span hit => Nat.le_succ_of_le (hits span hit)) found
        rwa [Nat.add_right_comm] at later

/-- What a search finds is a stretch of the text. -/
theorem Program.stop_le_of_search (found : program.search before text = some span)
    : span.stop ≤ text.length := by
  have none : Front.StartsBy ⟨[], Array.replicate program.code.size 0⟩ 0 := List.forall_mem_nil _
  have inside := stop_le_of_searchFrom none (by simp) found
  rwa [Nat.zero_add] at inside

----------------------------------------------------------------------------------------
-- Matches
----------------------------------------------------------------------------------------

/-- The first match of a line from a position on, as a stretch of the line. Conditions on words and
lines see the character before the position.
-/
def findFrom (pattern : Pattern) (line : List Char) (position : Nat) : Option Span :=
  if position ≤ line.length then
    (pattern.program.search (line.take position).getLast? (line.drop position)).map
      (Span.behind position)
  else none

/-- The next match from a position on. Where another match has ended at the position, an empty one
does not count there, and the search goes on from the next position.
-/
def nextMatch (pattern : Pattern) (line : List Char) (position : Nat) (ended : Bool)
    : Option Span :=
  if ended && pattern.findFrom line position = some ⟨position, 0⟩ then
    pattern.findFrom line (position + 1)
  else pattern.findFrom line position

/-- The spans are the successive matches of the line from a position on. -/
inductive MatchesFrom (pattern : Pattern) (line : List Char) : Nat → Bool → List Span → Prop
  | last {position ended} (none : pattern.nextMatch line position ended = none)
    : MatchesFrom pattern line position ended []
  | next {position ended span spans}
    (found : pattern.nextMatch line position ended = some span)
    (later : MatchesFrom pattern line span.stop true spans)
    : MatchesFrom pattern line position ended (span :: spans)

/-- The spans are the successive matches of the line. -/
def Matches (pattern : Pattern) (line : String) (spans : List Span) : Prop :=
  pattern.MatchesFrom line.toList 0 false spans

variable {pattern : Pattern} {line : List Char} {ended : Bool}

theorem findFrom_inside (found : pattern.findFrom line position = some span)
    : position ≤ span.skipped ∧ span.stop ≤ line.length := by
  unfold findFrom at found
  split at found
  · obtain ⟨relative, hit, rfl⟩ := Option.map_eq_some_iff.mp found
    have inside := Program.stop_le_of_search hit
    simp only [Span.stop, Span.behind, List.length_drop] at inside ⊢
    omega
  · cases found

/-- The next match lies behind the position. Where another one has ended there, it ends further
on.
-/
theorem nextMatch_inside (found : pattern.nextMatch line position ended = some span)
    : position ≤ span.skipped
      ∧ span.stop ≤ line.length
      ∧ (ended = true → position < span.stop) := by
  unfold nextMatch at found
  split at found
  · obtain ⟨after, inside⟩ := findFrom_inside found
    refine ⟨Nat.le_of_succ_le after, inside, fun _ => ?_⟩
    exact Nat.lt_of_lt_of_le after (Nat.le_add_right _ _)
  · next counts =>
      obtain ⟨after, inside⟩ := findFrom_inside found
      refine ⟨after, inside, ?_⟩
      rintro rfl
      refine Nat.lt_of_not_le fun short => counts ?_
      obtain ⟨skipped, length⟩ := span
      simp only [Span.stop] at after inside short
      obtain rfl : skipped = position := by omega
      obtain rfl : length = 0 := by omega
      simpa using found

/-- A line has one list of successive matches, because every search finds one thing at most. -/
theorem MatchesFrom.unique {others : List Span}
    (found : pattern.MatchesFrom line position ended spans)
    (also : pattern.MatchesFrom line position ended others)
    : spans = others := by
  induction found generalizing others with
  | last none =>
      cases also with
      | last => rfl
      | next found _ => cases none.symm.trans found
  | next found later ih =>
      cases also with
      | last none => cases none.symm.trans found
      | next again rest =>
          obtain rfl := Option.some.inj (found.symm.trans again)
          rw [ih rest]

/-- A line has no match exactly if the search of the whole line finds nothing. -/
theorem Matches.eq_nil_iff {line : String} (found : pattern.Matches line spans)
    : spans = [] ↔ pattern.isMatch line = false := by
  have first
      : pattern.nextMatch line.toList 0 false
        = (pattern.program.search none line.toList).map (Span.behind 0) := by
    simp [nextMatch, findFrom]
  unfold isMatch
  cases found with
  | last none =>
      rw [first] at none
      simpa using none
  | next found later =>
      rw [first] at found
      obtain ⟨span, searched, _⟩ := Option.map_eq_some_iff.mp found
      simp [searched]

/-- Successive matches lie one behind the other in the line. -/
theorem MatchesFrom.apart (found : pattern.MatchesFrom line position ended spans)
    (inside : position ≤ line.length)
    : Span.Apart line.length position spans := by
  induction found with
  | last none => exact inside
  | next found later ih =>
      obtain ⟨after, inside, _⟩ := nextMatch_inside found
      exact ⟨after, ih inside⟩

end LineEditor.Pattern
