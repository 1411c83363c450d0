import Mathlib.Data.List.Basic
import LineEditor.Files.Storage
import LineEditor.Proofs.Session.InputEnds
import LineEditor.Proofs.Text.DecodedLines

/-! The two readers of lines. What is typed and what is stored in a file are read as the same lines, but
for a carriage return at the very end. A line that cannot be decoded spoils a file; where it is
typed, the lines in front of it have been read.
-/

namespace LineEditor

open Text (EndsInReturn FileText IsText LongestDecodedFront RawLine SingleLine decode?
  dropReturn lineFeed rawLines)

variable {bytes body rest : List UInt8} {typed stored : List String} {text : String}

----------------------------------------------------------------------------------------
-- What the readers should give
----------------------------------------------------------------------------------------

/-- The byte of a carriage return. -/
def carriageReturn : UInt8 := 13

/-- How many lines bytes hold: one for each line feed, and one for what stands behind the last of
them if anything does.
-/
def lineCount (bytes : List UInt8) : Nat :=
  bytes.count lineFeed + if bytes = [] ∨ bytes.getLast? = some lineFeed then 0 else 1

/-- Typed and stored lines of the same bytes are the same, unless the bytes end in a carriage return:
then the last typed line keeps it, and the last stored one does not.
-/
def SameButReturn (bytes : List UInt8) (typed stored : List String) : Prop :=
  (bytes.getLast? = some carriageReturn
    → ∃ front last, typed = front ++ [last ++ "\r"] ∧ stored = front ++ [last])
  ∧ (bytes.getLast? ≠ some carriageReturn → typed = stored)

theorem lineCount_of_single (single : lineFeed ∉ body)
    : lineCount body = if body = [] then 0 else 1 := by
  have none : body.getLast? ≠ some lineFeed := fun last => single (List.mem_of_getLast? last)
  rw [lineCount, List.count_eq_zero.mpr single, Nat.zero_add]
  simp only [none, or_false]

theorem lineCount_append (single : lineFeed ∉ body)
    : lineCount (body ++ lineFeed :: rest) = lineCount rest + 1 := by
  simp only [lineCount, List.count_append, List.count_eq_zero.mpr single, List.count_cons_self,
    Text.getLast?_append_eq_some_iff, List.append_eq_nil_iff, reduceCtorEq, and_false, and_true,
    false_or, or_comm]
  omega

/-- A line in front that both readers give changes nothing of what they differ in. -/
theorem SameButReturn.cons (line : String) (same : SameButReturn rest typed stored)
    : SameButReturn (body ++ lineFeed :: rest) (line :: typed) (line :: stored) := by
  have other : ¬ (rest = [] ∧ carriageReturn = lineFeed) := fun same => absurd same.2 (by decide)
  unfold SameButReturn
  rw [ne_eq, Text.getLast?_append_eq_some_iff, or_iff_left other]
  constructor
  · intro ends
    obtain ⟨front, last, rfl, rfl⟩ := same.1 ends
    exact ⟨line :: front, last, rfl, rfl⟩
  · intro ends
    rw [same.2 ends]

theorem SameButReturn.length_eq (same : SameButReturn bytes typed stored)
    : typed.length = stored.length := by
  by_cases ends : bytes.getLast? = some carriageReturn
  · obtain ⟨front, last, rfl, rfl⟩ := same.1 ends
    rw [List.length_append, List.length_append]
    rfl
  · rw [same.2 ends]

----------------------------------------------------------------------------------------
-- Lines as typed
----------------------------------------------------------------------------------------

namespace Input

theorem lines_some (line : String) (pending : List (Option String))
    : lines ⟨some line :: pending⟩ = line :: lines ⟨pending⟩ := by
  simp [lines]

/-- Asked again and again, the input answers with its lines, and then with none. -/
theorem answer_eq_lines (input : Input) {count : Nat} (within : count ≤ input.lines.length)
    : input.answer count = input.lines[count]? := by
  obtain ⟨pending⟩ := input
  induction pending generalizing count with
  | nil =>
      obtain rfl := Nat.le_zero.mp within
      rfl
  | cons line pending ih =>
      cases line with
      | none =>
          obtain rfl := Nat.le_zero.mp within
          rfl
      | some line =>
          rw [lines_some] at within ⊢
          cases count with
          | zero => rfl
          | succ count => exact ih (Nat.le_of_succ_le_succ within)

/-- The lines that typed bytes give before the first end of the input. -/
def typedLines (bytes : List UInt8) : List String :=
  lines ⟨(rawLines bytes).map RawLine.typed?⟩

/-- A line that bytes give as typed is one of their lines. -/
theorem exists_typed_of_mem {line : String} (member : line ∈ typedLines bytes)
    : ∃ raw ∈ rawLines bytes, raw.typed? = some line := by
  obtain ⟨answer, among, rfl⟩ := List.mem_filterMap.mp member
  exact List.mem_map.mp (List.takeWhile_subset _ among)

theorem typedLines_of_single (single : lineFeed ∉ body) (decoded : decode? body = some text)
    : typedLines body = if body = [] then [] else [text] := by
  rw [typedLines, Text.rawLines_of_single single]
  split
  · rfl
  · simp [RawLine.typed?, decoded, lines]

theorem typedLines_append (single : lineFeed ∉ body)
    : typedLines (body ++ lineFeed :: rest)
      = match decode? body with
        | some text => dropReturn text :: typedLines rest
        | none => [] := by
  rw [typedLines, Text.rawLines_cons single, List.map_cons, RawLine.typed?]
  cases decode? body with
  | none => rfl
  | some text => exact lines_some _ _

end Input

----------------------------------------------------------------------------------------
-- Lines as stored
----------------------------------------------------------------------------------------

/-- The lines that bytes give as the content of a file, if each of them can be decoded. -/
def storedLines (bytes : List UInt8) : Option (List String) :=
  (rawLines bytes).mapM RawLine.stored?

theorem storedLines_of_single (single : lineFeed ∉ body) (decoded : decode? body = some text)
    : storedLines body = some (if body = [] then [] else [dropReturn text]) := by
  rw [storedLines, Text.rawLines_of_single single]
  split
  · rfl
  · simp [RawLine.stored?, decoded]

theorem storedLines_append (single : lineFeed ∉ body) (decoded : decode? body = some text)
    : storedLines (body ++ lineFeed :: rest)
      = (storedLines rest).map (dropReturn text :: ·) := by
  simp only [storedLines, Text.rawLines_cons single, List.mapM_cons, RawLine.stored?, decoded,
    Option.map_some]
  cases (rawLines rest).mapM RawLine.stored? <;> rfl

/-- A text ends in a carriage return exactly if its encoding ends in the byte of one. -/
theorem endsInReturn_iff (encoded : text.toByteArray.toList = bytes)
    : EndsInReturn text ↔ bytes.getLast? = some carriageReturn := by
  rw [← encoded, Text.toByteArray_toList, EndsInReturn]
  rcases List.eq_nil_or_concat text.toList with none | ⟨front, last, some⟩
  · simp [none]
  · have filled : String.utf8EncodeChar last ≠ [] := by
      fun_cases String.utf8EncodeChar last <;> exact List.cons_ne_nil _ _
    rw [some, List.concat_eq_append, List.flatMap_append, List.flatMap_singleton,
      List.getLast?_append_of_ne_nil _ filled, List.getLast?_concat, Option.some.injEq]
    constructor
    · rintro rfl
      decide
    · intro ends
      exact (Text.mem_utf8EncodeChar_iff (by decide) (by decide)).mp (List.mem_of_getLast? ends)

/-- Both readers give as many lines as bytes hold that encode a text, the same but for a carriage
return at the very end.
-/
theorem exists_storedLines (encodes : IsText bytes)
    : ∃ stored,
        storedLines bytes = some stored
        ∧ SameButReturn bytes (Input.typedLines bytes) stored
        ∧ stored.length = lineCount bytes := by
  induction bytes using Text.lines_induction with
  | last body single =>
      obtain ⟨text, encoded⟩ := encodes
      have decoded := Text.decode?_eq_some_iff.mpr encoded
      rw [Input.typedLines_of_single single decoded, storedLines_of_single single decoded,
        lineCount_of_single single]
      refine ⟨_, rfl, ⟨?_, ?_⟩, ?_⟩
      · intro ends
        have some : body ≠ [] := by
          rintro rfl
          cases ends
        have kept := Text.dropReturn_of_endsInReturn ((endsInReturn_iff encoded).mpr ends)
        rw [if_neg some, if_neg some]
        exact ⟨[], dropReturn text, by rw [← kept]; rfl, rfl⟩
      · intro other
        rw [Text.dropReturn_of_not_endsInReturn (mt (endsInReturn_iff encoded).mp other)]
      · split <;> rfl
  | line body rest single ih =>
      obtain ⟨⟨text, encoded⟩, behind⟩ := (Text.isText_append_lineFeed single).mp encodes
      have decoded := Text.decode?_eq_some_iff.mpr encoded
      obtain ⟨stored, found, same, count⟩ := ih behind
      rw [Input.typedLines_append single, storedLines_append single decoded, found, decoded,
        lineCount_append single, ← count]
      exact ⟨_, rfl, same.cons (dropReturn text), rfl⟩

----------------------------------------------------------------------------------------
-- Lines that cannot be decoded
----------------------------------------------------------------------------------------

/-- Bytes that encode no text spoil the file. -/
theorem storedLines_eq_none (lost : ¬ IsText bytes) : storedLines bytes = none := by
  induction bytes using Text.lines_induction with
  | last body single =>
      have some : body ≠ [] := by
        rintro rfl
        exact lost Text.isText_nil
      rw [storedLines, Text.rawLines_of_single single, if_neg some]
      simp [RawLine.stored?, Text.not_isText_iff.mp lost]
  | line body rest single ih =>
      by_cases first : IsText body
      · obtain ⟨text, decoded⟩ := Text.isText_iff.mp first
        have behind : ¬ IsText rest := fun behind =>
          lost ((Text.isText_append_lineFeed single).mpr ⟨first, behind⟩)
        rw [storedLines_append single decoded, ih behind, Option.map_none]
      · simp [storedLines, Text.rawLines_cons single, RawLine.stored?,
          Text.not_isText_iff.mp first]

/-- Of bytes that encode no text the lines of their longest decoded front are typed, on which both
readers agree. By induction on the lines: nothing is in front of the first line that is lost.
-/
theorem exists_longestDecodedFront (lost : ¬ IsText bytes)
    : ∃ front,
        LongestDecodedFront bytes front
        ∧ Input.typedLines front = Input.typedLines bytes
        ∧ storedLines front = some (Input.typedLines bytes) := by
  induction bytes using Text.lines_induction with
  | last body single =>
      have typed : Input.typedLines body = [] := by
        rw [Input.typedLines, Text.rawLines_of_single single]
        split
        · rfl
        · simp [RawLine.typed?, Text.not_isText_iff.mp lost, Input.lines]
      rw [typed]
      exact ⟨[], Text.longestDecodedFront_of_single single lost, rfl, rfl⟩
  | line body rest single ih =>
      by_cases first : IsText body
      · obtain ⟨text, decoded⟩ := Text.isText_iff.mp first
        have behind : ¬ IsText rest := fun behind =>
          lost ((Text.isText_append_lineFeed single).mpr ⟨first, behind⟩)
        obtain ⟨front, longest, typed, stored⟩ := ih behind
        refine ⟨body ++ lineFeed :: front, longest.append single first, ?_, ?_⟩
        · rw [Input.typedLines_append single, Input.typedLines_append single, typed]
        · rw [storedLines_append single decoded, stored, Input.typedLines_append single, decoded]
          rfl
      · rw [Input.typedLines_append single, Text.not_isText_iff.mp first]
        exact ⟨[], Text.longestDecodedFront_of_lost single first, rfl, rfl⟩

----------------------------------------------------------------------------------------
-- Both readers
----------------------------------------------------------------------------------------

theorem Text.FileText.ofBytes?_eq (content : ByteArray)
    : FileText.ofBytes? content
      = (storedLines content.toList).map fun lines => ⟨lines, content.size⟩ :=
  rfl

namespace FileTree

variable {tree : FileTree} {path : String} {content : ByteArray}

/-- The bytes of a file are read as a file, and typed. If they encode a text, the file is read with all
its bytes, and both readers give as many lines as there are line feeds and one for what stands
behind the last; no line holds a line feed, and the lines are the same but for a carriage return
at the very end, which only the last typed line keeps. Otherwise the file cannot be read, and the
lines that are typed are those of the longest decoded front of the bytes. The lines that are typed
are what the input answers before it first answers with none.
-/
theorem typed_agrees_with_stored (read : tree.read path = .ok content)
    : (IsText content.toList
        → ∃ stored,
          tree.load path = .ok ⟨stored, content.size⟩
          ∧ SameButReturn content.toList (Input.ofBytes content).lines stored
          ∧ stored.length = lineCount content.toList
          ∧ (Input.ofBytes content).lines.length = lineCount content.toList
          ∧ (∀ line ∈ stored, SingleLine line)
          ∧ ∀ line ∈ (Input.ofBytes content).lines, SingleLine line)
      ∧ (¬ IsText content.toList
        → tree.load path = .error ⟨path, .notText⟩
          ∧ ∃ front : List UInt8,
            LongestDecodedFront content.toList front
            ∧ (Input.ofBytes ⟨front.toArray⟩).lines = (Input.ofBytes content).lines
            ∧ FileText.ofBytes? ⟨front.toArray⟩
              = some ⟨(Input.ofBytes content).lines, front.length⟩)
      ∧ ∀ count ≤ (Input.ofBytes content).lines.length,
        (Input.ofBytes content).answer count = (Input.ofBytes content).lines[count]? := by
  refine ⟨?_, ?_, fun count within => Input.answer_eq_lines _ within⟩
  · intro encodes
    obtain ⟨stored, found, same, count⟩ := exists_storedLines encodes
    have file : FileText.ofBytes? content = some ⟨stored, content.size⟩ := by
      rw [Text.FileText.ofBytes?_eq, found, Option.map_some]
    have loaded : tree.load path = .ok ⟨stored, content.size⟩ := by simp only [load, read, file]
    refine ⟨stored, loaded, same, count, same.length_eq.trans count, ?_, ?_⟩
    · exact Text.singleLine_of_ofBytes? file
    · intro line member
      obtain ⟨raw, among, typed⟩ := Input.exists_typed_of_mem member
      exact Text.singleLine_of_typed? among typed
  · intro lost
    have file : FileText.ofBytes? content = none := by
      rw [Text.FileText.ofBytes?_eq, storedLines_eq_none lost, Option.map_none]
    obtain ⟨front, longest, typed, stored⟩ := exists_longestDecodedFront lost
    have bytes : (ByteArray.mk front.toArray).toList = front := Text.toList_eq_data_toList _
    have failed : tree.load path = .error ⟨path, .notText⟩ := by simp only [load, read, file]
    refine ⟨failed, front, longest, ?_, ?_⟩
    · show Input.typedLines (ByteArray.mk front.toArray).toList = _
      rw [bytes, typed]
      rfl
    · rw [Text.FileText.ofBytes?_eq, bytes, stored]
      rfl

/-- A text with both ends of lines and a carriage return at its very end, and bytes that stop being a
text on the second line.
-/
theorem typed_agrees_with_stored_returning
    : (∃ stored,
        load { entries := [(["f"], .file "a\r\n\nb\r".toUTF8)] } "f" = .ok ⟨stored, 6⟩
        ∧ (Input.ofBytes "a\r\n\nb\r".toUTF8).lines = ["a", "", "b\r"]
        ∧ ∃ front last, ["a", "", "b\r"] = front ++ [last ++ "\r"] ∧ stored = front ++ [last])
      ∧ load { entries := [(["f"], .file ⟨#[97, 10, 255, 10, 98, 10]⟩)] } "f"
        = .error ⟨"f", .notText⟩
      ∧ (Input.ofBytes ⟨#[97, 10, 255, 10, 98, 10]⟩).lines = ["a"] := by
  have typed : (Input.ofBytes "a\r\n\nb\r".toUTF8).lines = ["a", "", "b\r"] := by
    decide +kernel
  refine ⟨?_, ?_, by decide +kernel⟩
  · have read
        : FileTree.read { entries := [(["f"], .file "a\r\n\nb\r".toUTF8)] } "f"
          = .ok "a\r\n\nb\r".toUTF8 :=
      rfl
    obtain ⟨stored, loaded, same, -⟩ := (typed_agrees_with_stored read).1 ⟨"a\r\n\nb\r", rfl⟩
    exact ⟨stored, loaded, typed, typed ▸ same.1 (by decide +kernel)⟩
  · have read
        : FileTree.read { entries := [(["f"], .file ⟨#[97, 10, 255, 10, 98, 10]⟩)] } "f"
          = .ok ⟨#[97, 10, 255, 10, 98, 10]⟩ :=
      rfl
    have lost : ¬ IsText (ByteArray.mk #[97, 10, 255, 10, 98, 10]).toList :=
      Text.not_isText_iff.mpr (by decide +kernel)
    exact ((typed_agrees_with_stored read).2.1 lost).1

end FileTree

end LineEditor
