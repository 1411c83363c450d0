import LineEditor.Text.Lines

/-! Lines as they are stored in files: the bytes of the lines in order, each followed by a line
feed. Such bytes are cut back into the lines they were made of, because no other character has the
byte of a line feed in its encoding.
-/

namespace LineEditor.Text

variable {bytes body : List UInt8} {text : String} {lines : List String}

----------------------------------------------------------------------------------------
-- Bytes of texts
----------------------------------------------------------------------------------------

theorem toList_loop_eq (bytes : ByteArray) (index : Nat) (front : List UInt8)
    : ByteArray.toList.loop bytes index front
      = front.reverse ++ bytes.data.toList.drop index := by
  fun_induction ByteArray.toList.loop bytes index front with
  | case1 index front inside ih =>
      have bound : index < bytes.data.toList.length := by simpa using inside
      rw [ih, List.drop_eq_getElem_cons bound]
      simp [ByteArray.get!, inside]
  | case2 index front outside =>
      have bound : bytes.data.toList.length ≤ index := by simpa using outside
      rw [List.drop_eq_nil_of_le bound, List.append_nil]

/-- The bytes of a content are those of the array that it consists of. -/
theorem toList_eq_data_toList (bytes : ByteArray) : bytes.toList = bytes.data.toList := by
  simp [ByteArray.toList, toList_loop_eq]

/-- A text is encoded character by character. -/
theorem toByteArray_toList (text : String)
    : text.toByteArray.toList = text.toList.flatMap String.utf8EncodeChar := by
  rw [← String.utf8Encode_toList, toList_eq_data_toList, List.utf8Encode,
    List.toList_data_toByteArray]

/-- Bytes encode a text exactly if they are its encoding. -/
theorem decode?_eq_some_iff : decode? bytes = some text ↔ text.toByteArray.toList = bytes := by
  unfold decode? String.fromUTF8?
  rw [toList_eq_data_toList]
  constructor
  · intro decoded
    split at decoded
    · cases decoded
      rfl
    · cases decoded
  · rintro rfl
    exact dif_pos text.isValidUTF8

----------------------------------------------------------------------------------------
-- Line feeds
----------------------------------------------------------------------------------------

/-- Only an ASCII character has its byte in its encoding, because every byte of a longer encoding is
beyond those of the ASCII characters.
-/
theorem mem_utf8EncodeChar_iff {byte : UInt8} {ascii : Char} (code : ascii.val.toNat = byte.toNat)
    (small : byte.toNat < 128) {c : Char}
    : byte ∈ String.utf8EncodeChar c ↔ c = ascii := by
  have same : c = ascii ↔ c.val.toNat = byte.toNat := by
    rw [← Char.toNat_inj, ← code]
    exact Iff.rfl
  rw [same]
  fun_cases String.utf8EncodeChar c
  all_goals
    simp only [List.mem_cons, List.not_mem_nil, or_false, ← UInt8.toNat_inj, UInt8.toNat_ofNat']
    omega

theorem lineFeed_mem_utf8EncodeChar_iff {c : Char}
    : lineFeed ∈ String.utf8EncodeChar c ↔ c = '\n' :=
  mem_utf8EncodeChar_iff (by decide) (by decide)

/-- A text holds a line feed exactly if its encoding does. -/
theorem lineFeed_mem_toByteArray_iff
    : lineFeed ∈ text.toByteArray.toList ↔ '\n' ∈ text.toList := by
  simp [toByteArray_toList, lineFeed_mem_utf8EncodeChar_iff]

/-- Bytes without a line feed encode a text without one. -/
theorem lineFeed_notMem_of_decode? (decoded : decode? bytes = some text)
    (single : lineFeed ∉ bytes)
    : '\n' ∉ text.toList := by
  rw [decode?_eq_some_iff] at decoded
  rwa [← lineFeed_mem_toByteArray_iff, decoded]

----------------------------------------------------------------------------------------
-- Cutting
----------------------------------------------------------------------------------------

/-- Lines cut before come before those still to be cut, by induction on the bytes. -/
theorem rawLinesFrom_eq (line : List UInt8) (lines : List RawLine) (bytes : List UInt8)
    : rawLinesFrom line lines bytes = lines.reverse ++ rawLinesFrom line [] bytes := by
  induction bytes generalizing line lines with
  | nil =>
      simp only [rawLinesFrom]
      split <;> simp
  | cons byte bytes ih =>
      simp only [rawLinesFrom]
      split
      · rw [ih, ih [] [_]]
        simp
      · exact ih _ _

/-- Bytes without a line feed go to the line that is being cut. -/
theorem rawLinesFrom_append (single : lineFeed ∉ body) (line : List UInt8) (bytes : List UInt8)
    : rawLinesFrom line [] (body ++ bytes) = rawLinesFrom (body.reverse ++ line) [] bytes := by
  induction body generalizing line with
  | nil => rfl
  | cons byte body ih =>
      obtain ⟨other, rest⟩ := List.ne_and_not_mem_of_not_mem_cons single
      rw [List.cons_append, rawLinesFrom, if_neg other.symm, ih rest]
      simp

/-- Bytes up to a line feed are the first line. -/
theorem rawLines_cons (single : lineFeed ∉ body) (bytes : List UInt8)
    : rawLines (body ++ lineFeed :: bytes) = ⟨body, true⟩ :: rawLines bytes := by
  rw [rawLines, rawLinesFrom_append single, rawLinesFrom, if_pos rfl, rawLinesFrom_eq]
  simp [rawLines]

/-- No line holds a line feed, because lines are cut at every one. -/
theorem lineFeed_notMem_rawLinesFrom {line : List UInt8} {lines : List RawLine}
    (single : lineFeed ∉ line) (before : ∀ cut ∈ lines, lineFeed ∉ cut.bytes)
    : ∀ cut ∈ rawLinesFrom line lines bytes, lineFeed ∉ cut.bytes := by
  induction bytes generalizing line lines with
  | nil =>
      intro cut member
      simp only [rawLinesFrom, List.mem_reverse] at member
      split at member
      · exact before cut member
      · rcases List.mem_cons.mp member with rfl | member
        · simpa using single
        · exact before cut member
  | cons byte bytes ih =>
      rw [rawLinesFrom]
      split
      · exact ih List.not_mem_nil (List.forall_mem_cons.mpr ⟨by simpa using single, before⟩)
      · next other => exact ih (by simp [single, Ne.symm other]) before

----------------------------------------------------------------------------------------
-- Carriage returns
----------------------------------------------------------------------------------------

/-- The text has a carriage return at its end. -/
def EndsInReturn (text : String) : Prop := text.toList.getLast? = some '\r'

instance decidableEndsInReturn (text : String) : Decidable (EndsInReturn text) :=
  inferInstanceAs (Decidable (_ = _))

/-- What is kept of a text is all of it but one carriage return at its end, if there is one. -/
def LosesReturn (text kept : String) : Prop :=
  if EndsInReturn text then text = kept ++ "\r" else kept = text

theorem dropReturn_of_endsInReturn (ends : EndsInReturn text)
    : text = dropReturn text ++ "\r" := by
  obtain ⟨rest, last⟩ := List.getLast?_eq_some_iff.mp ends
  simp [dropReturn, ← String.toList_inj, last]

theorem dropReturn_of_not_endsInReturn (other : ¬ EndsInReturn text) : dropReturn text = text := by
  unfold dropReturn
  split
  · next rest last =>
      refine absurd (List.getLast?_eq_some_iff.mpr ⟨rest.reverse, ?_⟩) other
      rw [← List.reverse_cons, ← last, List.reverse_reverse]
  · rfl

theorem losesReturn_dropReturn (text : String) : LosesReturn text (dropReturn text) := by
  unfold LosesReturn
  split
  · next ends => exact dropReturn_of_endsInReturn ends
  · next other => exact dropReturn_of_not_endsInReturn other

/-- Only a text with a carriage return at its end becomes another one. -/
theorem dropReturn_eq_self_iff : dropReturn text = text ↔ ¬ EndsInReturn text := by
  constructor
  · intro same ends
    have longer := congrArg (·.toList.length) (dropReturn_of_endsInReturn ends)
    simp [same] at longer
  · exact dropReturn_of_not_endsInReturn

----------------------------------------------------------------------------------------
-- Contents
----------------------------------------------------------------------------------------

/-- The content of lines consists of the bytes of each with a line feed behind it. -/
theorem fileContent_toList (lines : List String)
    : (fileContent lines).toList
      = lines.flatMap fun line => line.toByteArray.toList ++ [lineFeed] := by
  have feed : String.utf8EncodeChar '\n' = [lineFeed] := by decide
  simp [fileContent, toByteArray_toList, String.toList_join, List.flatMap_map, List.flatMap_assoc,
    feed]

/-- The content of single lines is cut into these lines. -/
theorem rawLines_fileContent (single : ∀ line ∈ lines, '\n' ∉ line.toList)
    : rawLines (fileContent lines).toList
      = lines.map fun line => ⟨line.toByteArray.toList, true⟩ := by
  rw [fileContent_toList]
  induction lines with
  | nil => rfl
  | cons line lines ih =>
      obtain ⟨first, rest⟩ := List.forall_mem_cons.mp single
      rw [← lineFeed_mem_toByteArray_iff] at first
      rw [List.flatMap_cons, List.append_assoc, List.singleton_append, rawLines_cons first, ih rest]
      rfl

/-- Reading the content of single lines gives these lines, less a carriage return at the end of
each.
-/
theorem ofBytes?_fileContent (single : ∀ line ∈ lines, '\n' ∉ line.toList)
    : FileText.ofBytes? (fileContent lines)
      = some ⟨lines.map dropReturn, (fileContent lines).size⟩ := by
  have stored (line : String)
      : RawLine.stored? ⟨line.toByteArray.toList, true⟩ = some (dropReturn line) := by
    rw [RawLine.stored?, decode?_eq_some_iff.mpr rfl]
    rfl
  have read
      : (lines.map fun line => (⟨line.toByteArray.toList, true⟩ : RawLine)).mapM RawLine.stored?
        = some (lines.map dropReturn) := by
    simp only [List.mapM_map, Function.comp_def, stored]
    exact List.mapM_pure
  rw [FileText.ofBytes?, rawLines_fileContent single, read]
  rfl

end LineEditor.Text
