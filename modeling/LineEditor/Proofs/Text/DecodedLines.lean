import LineEditor.Proofs.Text.SingleLines

/-! Lines of bytes that encode a text, and of bytes that do not. Line by line, bytes encode a text exactly
if every line does; otherwise the lines in front of the first one that does not are the longest
start of whole lines that encode a text.
-/

namespace LineEditor.Text

variable {bytes body rest front : List UInt8}

----------------------------------------------------------------------------------------
-- Line by line
----------------------------------------------------------------------------------------

/-- Bytes are a last line without a line feed, or a line with its line feed in front of other bytes. -/
theorem lines_induction {motive : List UInt8 → Prop}
    (last : ∀ body, lineFeed ∉ body → motive body)
    (line : ∀ body rest, lineFeed ∉ body → motive rest → motive (body ++ lineFeed :: rest))
    (bytes : List UInt8)
    : motive bytes := by
  induction count : bytes.length using Nat.strongRecOn generalizing bytes with
  | ind size ih =>
      by_cases feed : lineFeed ∈ bytes
      · obtain ⟨body, rest, rfl, single⟩ := List.eq_append_cons_of_mem feed
        have shorter : rest.length < size := by
          rw [← count, List.length_append, List.length_cons]
          omega
        exact line body rest single (ih rest.length shorter rest rfl)
      · exact last bytes feed

/-- Bytes without a line feed are one line, or none if there are no bytes. -/
theorem rawLines_of_single (single : lineFeed ∉ body)
    : rawLines body = if body = [] then [] else [⟨body, false⟩] := by
  have cut := rawLinesFrom_append single [] []
  rw [List.append_nil, List.append_nil] at cut
  rw [rawLines, cut, rawLinesFrom]
  split <;> simp_all

/-- Nothing but the place of the first line feed decides what stands before and behind it. -/
theorem eq_of_append_lineFeed {left right before behind : List UInt8} (first : lineFeed ∉ left)
    (second : lineFeed ∉ right) (same : left ++ lineFeed :: before = right ++ lineFeed :: behind)
    : left = right ∧ before = behind := by
  induction left generalizing right with
  | nil =>
      cases right with
      | nil => exact ⟨rfl, List.tail_eq_of_cons_eq same⟩
      | cons byte right =>
          have feed : lineFeed = byte := List.head_eq_of_cons_eq same
          exact absurd feed (List.ne_and_not_mem_of_not_mem_cons second).1
  | cons byte left ih =>
      cases right with
      | nil =>
          have feed : byte = lineFeed := List.head_eq_of_cons_eq same
          exact absurd feed.symm (List.ne_and_not_mem_of_not_mem_cons first).1
      | cons other right =>
          rw [List.cons_append, List.cons_append] at same
          obtain ⟨rfl, tails⟩ := List.cons.inj same
          obtain ⟨_, first⟩ := List.ne_and_not_mem_of_not_mem_cons first
          obtain ⟨_, second⟩ := List.ne_and_not_mem_of_not_mem_cons second
          obtain ⟨rfl, rfl⟩ := ih first second tails
          exact ⟨rfl, rfl⟩

/-- Bytes with a first line end as what stands behind it does, if there is anything. -/
theorem getLast?_append_eq_some_iff {byte : UInt8}
    : (body ++ lineFeed :: rest).getLast? = some byte
      ↔ rest.getLast? = some byte ∨ rest = [] ∧ byte = lineFeed := by
  cases last : rest.getLast? with
  | none =>
      obtain rfl := List.getLast?_eq_none_iff.mp last
      simp [eq_comm]
  | some other =>
      have some : rest ≠ [] := by
        rintro rfl
        cases last
      simp [List.getLast?_append, List.getLast?_cons, last, some]

----------------------------------------------------------------------------------------
-- Bytes that encode a text
----------------------------------------------------------------------------------------

/-- The bytes are the encoding of a text. -/
def IsText (bytes : List UInt8) : Prop := ∃ text : String, text.toByteArray.toList = bytes

theorem isText_iff : IsText bytes ↔ ∃ text, decode? bytes = some text := by
  simp only [decode?_eq_some_iff]
  exact Iff.rfl

theorem not_isText_iff : ¬ IsText bytes ↔ decode? bytes = none := by
  rw [isText_iff, not_exists]
  exact Option.eq_none_iff_forall_ne_some.symm

theorem isText_nil : IsText [] := ⟨"", by rw [toByteArray_toList]; rfl⟩

/-- A line feed between two texts is encoded as the byte of one. -/
theorem toByteArray_append_lineFeed (line behind : String)
    : (line ++ "\n" ++ behind).toByteArray.toList
      = line.toByteArray.toList ++ lineFeed :: behind.toByteArray.toList := by
  have feed : String.utf8EncodeChar '\n' = [lineFeed] := by decide
  rw [toByteArray_toList, toByteArray_toList, toByteArray_toList]
  simp [feed]

/-- A line with its line feed in front of other bytes encodes a text with them exactly if both do, the
line without its line feed.
-/
theorem isText_append_lineFeed (single : lineFeed ∉ body)
    : IsText (body ++ lineFeed :: rest) ↔ IsText body ∧ IsText rest := by
  constructor
  · rintro ⟨text, encoded⟩
    have feed : '\n' ∈ text.toList := by
      rw [← lineFeed_mem_toByteArray_iff, encoded]
      simp
    obtain ⟨line, behind, parts, first⟩ := List.eq_append_cons_of_mem feed
    have alone : lineFeed ∉ (String.ofList line).toByteArray.toList := by
      rw [lineFeed_mem_toByteArray_iff, String.toList_ofList]
      exact first
    have whole : text = String.ofList line ++ "\n" ++ String.ofList behind := by
      rw [← String.toList_inj, parts]
      simp
    rw [whole, toByteArray_append_lineFeed] at encoded
    obtain ⟨rfl, rfl⟩ := eq_of_append_lineFeed alone single encoded
    exact ⟨⟨_, rfl⟩, ⟨_, rfl⟩⟩
  · rintro ⟨⟨line, rfl⟩, ⟨behind, rfl⟩⟩
    exact ⟨_, toByteArray_append_lineFeed line behind⟩

/-- Bytes encode a text exactly if each of their lines does. -/
theorem isText_iff_forall_rawLines : IsText bytes ↔ ∀ line ∈ rawLines bytes, IsText line.bytes := by
  induction bytes using lines_induction with
  | last body single =>
      rw [rawLines_of_single single]
      split
      next none => simp [none, isText_nil]
      next => simp
  | line body rest single ih =>
      rw [isText_append_lineFeed single, rawLines_cons single, List.forall_mem_cons, ih]

----------------------------------------------------------------------------------------
-- Whole lines in front
----------------------------------------------------------------------------------------

/-- Bytes in front of others that consist of whole lines of them, each of which encodes a text. -/
structure DecodedFront (bytes front : List UInt8) : Prop where
  starts : front <+: bytes
  whole : front = [] ∨ front.getLast? = some lineFeed ∨ front = bytes
  decoded : ∀ line ∈ rawLines front, IsText line.bytes

/-- The longest of the whole lines in front that encode a text. -/
structure LongestDecodedFront (bytes front : List UInt8) : Prop extends DecodedFront bytes front where
  longest : ∀ other, DecodedFront bytes other → other <+: front

theorem decodedFront_nil (bytes : List UInt8) : DecodedFront bytes [] where
  starts := List.nil_prefix
  whole := Or.inl rfl
  decoded := by simp [rawLines, rawLinesFrom]

/-- In front of a last line there is nothing else than this line. -/
theorem decodedFront_of_single (single : lineFeed ∉ body) (decoded : DecodedFront body front)
    : front = [] ∨ front = body := by
  rcases decoded.whole with none | feed | all
  · exact Or.inl none
  · exact absurd (decoded.starts.subset (List.mem_of_getLast? feed)) single
  · exact Or.inr all

/-- Whole lines stay whole behind a first line, and the other way round. -/
theorem whole_append_iff {behind : List UInt8}
    : (body ++ lineFeed :: behind).getLast? = some lineFeed
        ∨ body ++ lineFeed :: behind = body ++ lineFeed :: rest
      ↔ behind = [] ∨ behind.getLast? = some lineFeed ∨ behind = rest := by
  rw [getLast?_append_eq_some_iff, List.append_cancel_left_eq, List.cons.injEq]
  simp only [and_true, true_and]
  grind

/-- In front of bytes with a first line there is nothing, or this line with lines behind it. -/
theorem decodedFront_append_iff (single : lineFeed ∉ body)
    : DecodedFront (body ++ lineFeed :: rest) front
      ↔ front = []
        ∨ ∃ behind,
          front = body ++ lineFeed :: behind ∧ IsText body ∧ DecodedFront rest behind := by
  constructor
  · intro decoded
    rcases decoded.whole with none | ends
    · exact Or.inl none
    · have feed : lineFeed ∈ front := by
        rcases ends with last | rfl
        · exact List.mem_of_getLast? last
        · simp
      obtain ⟨line, behind, rfl, first⟩ := List.eq_append_cons_of_mem feed
      obtain ⟨left, same⟩ := decoded.starts
      rw [List.append_assoc, List.cons_append] at same
      obtain ⟨rfl, parts⟩ := eq_of_append_lineFeed first single same
      have lines := decoded.decoded
      rw [rawLines_cons single, List.forall_mem_cons] at lines
      exact Or.inr
        ⟨behind, rfl, lines.1, ⟨left, parts⟩, whole_append_iff.mp ends, lines.2⟩
  · rintro (rfl | ⟨behind, rfl, text, decoded⟩)
    · exact decodedFront_nil _
    · refine ⟨?_, Or.inr (whole_append_iff.mpr decoded.whole), ?_⟩
      · rw [List.prefix_append_right_inj, List.prefix_cons_inj]
        exact decoded.starts
      · rw [rawLines_cons single, List.forall_mem_cons]
        exact ⟨text, decoded.decoded⟩

/-- In front of a last line that encodes no text there is nothing. -/
theorem longestDecodedFront_of_single (single : lineFeed ∉ body) (lost : ¬ IsText body)
    : LongestDecodedFront body [] := by
  refine ⟨decodedFront_nil body, ?_⟩
  intro other decoded
  rcases decodedFront_of_single single decoded with rfl | rfl
  · exact List.prefix_rfl
  · exact absurd (isText_iff_forall_rawLines.mpr decoded.decoded) lost

/-- In front of a first line that encodes no text there is nothing, whatever is behind it. -/
theorem longestDecodedFront_of_lost (single : lineFeed ∉ body) (lost : ¬ IsText body)
    : LongestDecodedFront (body ++ lineFeed :: rest) [] := by
  refine ⟨decodedFront_nil _, ?_⟩
  intro other decoded
  rcases (decodedFront_append_iff single).mp decoded with rfl | ⟨_, _, text, _⟩
  · exact List.prefix_rfl
  · exact absurd text lost

/-- A first line that encodes a text is in front of the longest lines behind it. -/
theorem LongestDecodedFront.append (longest : LongestDecodedFront rest front)
    (single : lineFeed ∉ body) (text : IsText body)
    : LongestDecodedFront (body ++ lineFeed :: rest) (body ++ lineFeed :: front) := by
  refine ⟨?_, ?_⟩
  · exact (decodedFront_append_iff single).mpr
      (Or.inr ⟨front, rfl, text, longest.toDecodedFront⟩)
  · intro other decoded
    rcases (decodedFront_append_iff single).mp decoded with rfl | ⟨shorter, rfl, _, decoded⟩
    · exact List.nil_prefix
    · rw [List.prefix_append_right_inj, List.prefix_cons_inj]
      exact longest.longest shorter decoded

end LineEditor.Text
