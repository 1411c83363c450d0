/-! White space as the command language and the pattern syntax see it, trimming, and the one line of
a report that says what is wrong.
-/

namespace LineEditor.Text

/-- The white space characters, ASCII and others. -/
def isBlank (c : Char) : Bool :=
  let code := c.toNat
  (0x09 ≤ code && code ≤ 0x0D) || code == 0x20 || code == 0x85 || code == 0xA0
    || code == 0x1680 || (0x2000 ≤ code && code ≤ 0x200A) || code == 0x2028
    || code == 0x2029 || code == 0x202F || code == 0x205F || code == 0x3000

/-- A text of white space only; the empty text counts. -/
def allBlank (text : List Char) : Bool :=
  text.all isBlank

/-- The text without white space at either end. -/
def trim (text : List Char) : List Char :=
  ((text.dropWhile isBlank).reverse.dropWhile isBlank).reverse

/-- The last line of a report that is not blank, without the white space around it. Of a report
without such a line only this is known, that a pattern is invalid.
-/
def summary (report : String) : String :=
  match (((report.toList.splitOn '\n').map trim).filter (!·.isEmpty)).getLast? with
  | some line => String.ofList line
  | none => "invalid pattern"

/-- Dropping blanks leaves nothing exactly when all is blank, by induction on the text. -/
theorem dropWhile_isBlank_eq_nil_iff {text : List Char}
    : text.dropWhile isBlank = [] ↔ allBlank text = true := by
  induction text with
  | nil => exact ⟨fun _ => rfl, fun _ => rfl⟩
  | cons c text ih =>
      by_cases h : isBlank c = true
      · rw [List.dropWhile_cons_of_pos h, ih, allBlank, allBlank, List.all_cons, h,
          Bool.true_and]
      · rw [List.dropWhile_cons_of_neg h]
        constructor
        · intro hn
          cases hn
        · intro ha
          rw [allBlank, List.all_cons, Bool.and_eq_true] at ha
          exact absurd ha.1 h

/-- Trimming leaves nothing exactly when the text is blank, because what the first pass leaves
starts with no blank.
-/
theorem trim_eq_nil_iff {text : List Char}
    : trim text = [] ↔ allBlank text = true := by
  rw [← dropWhile_isBlank_eq_nil_iff, trim, List.reverse_eq_nil_iff,
    dropWhile_isBlank_eq_nil_iff, allBlank, List.all_reverse, ← allBlank]
  constructor
  · intro h
    cases hd : text.dropWhile isBlank with
    | nil => rfl
    | cons c rest =>
        have nonempty : text.dropWhile isBlank ≠ [] := by simp [hd]
        have first := List.head_dropWhile_not isBlank nonempty
        simp only [hd, List.head_cons] at first
        rw [hd, allBlank, List.all_cons, first, Bool.false_and] at h
        contradiction
  · intro h
    rw [h]
    rfl

end LineEditor.Text
