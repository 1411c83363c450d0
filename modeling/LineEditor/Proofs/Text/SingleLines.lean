import LineEditor.Proofs.Text.StoredLines
import LineEditor.Text.Blank
import LineEditor.Text.Field

/-! Texts on a single line. Cutting, unescaping and trimming only take characters away, so that what
they leave of a single line is one; the lines of bytes are single lines by how they are cut, and
so is what any report comes to.
-/

namespace LineEditor.Text

/-- The text holds no line feed. -/
def SingleLine (text : String) : Prop := '\n' ∉ text.toList

instance decidableSingleLine (text : String) : Decidable (SingleLine text) :=
  inferInstanceAs (Decidable (_ ∉ _))

variable {first second text : String} {line body : List Char} {bytes : List UInt8}

@[simp] theorem singleLine_ofList : SingleLine (String.ofList line) ↔ '\n' ∉ line := by
  simp [SingleLine]

@[simp] theorem singleLine_append
    : SingleLine (first ++ second) ↔ SingleLine first ∧ SingleLine second := by
  simp [SingleLine]

----------------------------------------------------------------------------------------
-- Parts of a text
----------------------------------------------------------------------------------------

theorem trim_subset (text : List Char) : trim text ⊆ text := by
  intro c member
  rw [trim, List.mem_reverse] at member
  have kept := List.dropWhile_subset isBlank member
  exact List.dropWhile_subset isBlank (List.mem_reverse.mp kept)

theorem unescape_subset (delimiter : Char) (text : List Char) : unescape delimiter text ⊆ text := by
  fun_induction unescape delimiter text with
  | case1 | case2 => exact List.Subset.refl _
  | case3 c next text _ ih => exact List.subset_cons_of_subset c ih
  | case4 c next text _ ih => exact List.cons_subset_cons c ih

/-- A field and what lies behind it are parts of the text that was cut. -/
theorem Field.cut_subset (delimiter : Char) (text : List Char)
    : (cut delimiter text).body ⊆ text ∧ (cut delimiter text).rest ⊆ text := by
  fun_induction cut delimiter text with
  | case1 | case2 => exact ⟨List.Subset.refl _, List.nil_subset _⟩
  | case3 c text ih =>
      obtain ⟨body, rest⟩ := ih
      refine ⟨List.cons_subset_cons '\\' (List.cons_subset_cons c body), ?_⟩
      exact List.subset_cons_of_subset '\\' (List.subset_cons_of_subset c rest)
  | case4 text => exact ⟨List.nil_subset _, List.subset_cons_self _ text⟩
  | case5 c text _ _ _ ih =>
      obtain ⟨body, rest⟩ := ih
      exact ⟨List.cons_subset_cons c body, List.subset_cons_of_subset c rest⟩

/-- The pieces between separators are parts of the text, and none holds the separator. -/
theorem mem_splitOn {separator : Char} {text piece : List Char}
    (member : piece ∈ text.splitOn separator)
    : separator ∉ piece ∧ piece ⊆ text := by
  induction text generalizing piece with
  | nil => simp_all
  | cons c text ih =>
      rw [List.splitOn_cons_eq_if_modifyHead] at member
      split at member
      · rcases List.mem_cons.mp member with rfl | member
        · exact ⟨List.not_mem_nil, List.nil_subset _⟩
        · obtain ⟨absent, part⟩ := ih member
          exact ⟨absent, List.subset_cons_of_subset c part⟩
      · next other =>
          cases pieces : text.splitOn separator with
          | nil => exact absurd pieces (List.splitOn_ne_nil separator text)
          | cons front others =>
              rw [pieces, List.modifyHead_cons] at member
              rcases List.mem_cons.mp member with rfl | member
              · obtain ⟨absent, part⟩ := ih (pieces ▸ List.mem_cons_self)
                refine ⟨?_, List.cons_subset_cons c part⟩
                simpa [absent] using Ne.symm (by simpa using other)
              · obtain ⟨absent, part⟩ := ih (pieces ▸ List.mem_cons_of_mem front member)
                exact ⟨absent, List.subset_cons_of_subset c part⟩

----------------------------------------------------------------------------------------
-- Reports
----------------------------------------------------------------------------------------

/-- Whatever a report is, what it comes to is a single line. -/
theorem singleLine_summary (report : String) : SingleLine (summary report) := by
  unfold summary
  split
  · next line last =>
      have kept := List.mem_of_getLast? last
      obtain ⟨piece, member, rfl⟩ := List.mem_map.mp (List.mem_filter.mp kept).1
      exact singleLine_ofList.mpr fun feed => (mem_splitOn member).1 (trim_subset piece feed)
  · decide

/-- A last line that is not blank is what a report comes to, whatever lines stand above it. -/
theorem summary_append (front : String) (single : SingleLine text)
    (filled : trim text.toList ≠ [])
    : summary (front ++ "\n" ++ text) = String.ofList (trim text.toList) := by
  have feed : "\n".toList = ['\n'] := rfl
  unfold summary
  simp [feed, List.splitOn_append_cons_self, List.splitOn_eq_singleton single, filled]

----------------------------------------------------------------------------------------
-- Lines of bytes
----------------------------------------------------------------------------------------

theorem SingleLine.dropReturn (single : SingleLine text) : SingleLine (dropReturn text) := by
  by_cases ends : EndsInReturn text
  · rw [dropReturn_of_endsInReturn ends, singleLine_append] at single
    exact single.1
  · rwa [dropReturn_of_not_endsInReturn ends]

/-- A line that is cut from bytes is decoded to a single line. -/
theorem singleLine_of_decode? {raw : RawLine} (member : raw ∈ rawLines bytes)
    (decoded : decode? raw.bytes = some text)
    : SingleLine text := by
  have single : lineFeed ∉ raw.bytes :=
    lineFeed_notMem_rawLinesFrom List.not_mem_nil (by simp) raw member
  exact lineFeed_notMem_of_decode? decoded single

/-- A line that is typed is a single line. -/
theorem singleLine_of_typed? {raw : RawLine} (member : raw ∈ rawLines bytes)
    (typed : raw.typed? = some text)
    : SingleLine text := by
  obtain ⟨decoded, bytes, rfl⟩ := Option.map_eq_some_iff.mp typed
  have single := singleLine_of_decode? member bytes
  split
  · exact single.dropReturn
  · exact single

/-- What a list is mapped to by steps that can fail comes from its members. -/
theorem exists_of_mem_mapM {α β : Type} {step : α → Option β} {items : List α} {results : List β}
    (mapped : items.mapM step = some results)
    : ∀ result ∈ results, ∃ item ∈ items, step item = some result := by
  induction items generalizing results with
  | nil =>
      obtain rfl := Option.some.inj mapped
      exact fun _ => nofun
  | cons item items ih =>
      simp only [List.mapM_cons, Option.bind_eq_bind, Option.bind_eq_some_iff] at mapped
      obtain ⟨result, here, results, rest, same⟩ := mapped
      obtain rfl := Option.some.inj same
      refine List.forall_mem_cons.mpr ⟨⟨item, List.mem_cons_self, here⟩, ?_⟩
      intro other member
      obtain ⟨source, among, comes⟩ := ih rest other member
      exact ⟨source, List.mem_cons_of_mem item among, comes⟩

/-- The lines of a file are single lines. -/
theorem singleLine_of_ofBytes? {content : ByteArray} {file : FileText}
    (read : FileText.ofBytes? content = some file)
    : ∀ line ∈ file.lines, SingleLine line := by
  obtain ⟨lines, stored, rfl⟩ := Option.map_eq_some_iff.mp read
  intro line member
  obtain ⟨raw, among, decoded⟩ := exists_of_mem_mapM stored line member
  obtain ⟨text, bytes, rfl⟩ := Option.map_eq_some_iff.mp decoded
  exact (singleLine_of_decode? among bytes).dropReturn

end LineEditor.Text
