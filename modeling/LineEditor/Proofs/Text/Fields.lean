import Mathlib.Data.List.TakeDrop
import LineEditor.Text.Field

/-! Steps of reading, and fields that hold a given text: a text that a delimiter behind it ends as a
field, and not before, is the body of the field that is cut in front of any text. Most texts can
be brought into this form by escapes, and unescaping gives them back.
-/

namespace LineEditor

----------------------------------------------------------------------------------------
-- Steps of reading
----------------------------------------------------------------------------------------

/-- Two steps succeed exactly if both do. -/
theorem bind_eq_ok_iff {ε α β : Type} {step : Except ε α} {next : α → Except ε β} {result : β}
    : (step >>= next) = .ok result ↔ ∃ between, step = .ok between ∧ next between = .ok result := by
  cases step with
  | error error => simp [bind, Except.bind]
  | ok between => simp [bind, Except.bind]

/-- What passes the test is taken, up to something that does not. -/
theorem span_append {α : Type} {passes : α → Bool} {front rest : List α}
    (inside : ∀ item ∈ front, passes item) (ends : ∀ item ∈ rest.head?, passes item = false)
    : (front ++ rest).span passes = (front, rest) := by
  have none : rest.takeWhile passes = [] ∧ rest.dropWhile passes = rest := by
    cases rest with
    | nil => exact ⟨rfl, rfl⟩
    | cons item rest =>
        have other : ¬ passes item = true := by simp [ends item rfl]
        exact ⟨List.takeWhile_cons_of_neg other, List.dropWhile_cons_of_neg other⟩
  rw [List.span_eq_takeWhile_dropWhile, List.takeWhile_append_of_pos inside,
    List.dropWhile_append_of_pos inside, none.1, none.2, List.append_nil]

namespace Text

variable {delimiter c : Char} {body text : List Char}

----------------------------------------------------------------------------------------
-- Escapes
----------------------------------------------------------------------------------------

theorem escape_cons_self (text : List Char)
    : escape delimiter (delimiter :: text) = '\\' :: delimiter :: escape delimiter text :=
  if_pos rfl

theorem escape_cons_of_ne (other : c ≠ delimiter) (text : List Char)
    : escape delimiter (c :: text) = c :: escape delimiter text :=
  if_neg other

theorem escape_eq_self (absent : delimiter ∉ text) : escape delimiter text = text := by
  induction text with
  | nil => rfl
  | cons c text ih =>
      have other : c ≠ delimiter := (List.ne_of_not_mem_cons absent).symm
      rw [escape_cons_of_ne other, ih (List.not_mem_of_not_mem_cons absent)]

/-- An escaped text does not start with the delimiter, only with a backslash in front of it. -/
theorem head?_escape_ne (simple : delimiter ≠ '\\') (text : List Char)
    : (escape delimiter text).head? ≠ some delimiter := by
  cases text with
  | nil => simp [escape]
  | cons c text =>
      by_cases same : c = delimiter
      · subst same
        simpa [escape_cons_self] using simple.symm
      · simpa [escape_cons_of_ne same] using same

theorem unescape_cons (kept : c = '\\' → text.head? ≠ some delimiter)
    : unescape delimiter (c :: text) = c :: unescape delimiter text := by
  cases text with
  | nil => rfl
  | cons next text =>
      rw [unescape, if_neg]
      rintro ⟨escapes, rfl⟩
      exact kept escapes rfl

/-- Unescaping takes away what escaping puts in. A backslash of the text itself stays, because no
delimiter comes right behind it in the escaped text.
-/
theorem unescape_escape (simple : delimiter ≠ '\\') (text : List Char)
    : unescape delimiter (escape delimiter text) = text := by
  induction text with
  | nil => rfl
  | cons c text ih =>
      by_cases same : c = delimiter
      · subst same
        rw [escape_cons_self, unescape, if_pos ⟨rfl, rfl⟩,
          unescape_cons fun escapes => absurd escapes simple, ih]
      · rw [escape_cons_of_ne same, unescape_cons fun _ => head?_escape_ne simple text, ih]

/-- No delimiter in the text is escaped, and the text does not end escaped. -/
def isClean (delimiter : Char) : List Char → Bool
  | [] => true
  | ['\\'] => false
  | '\\' :: c :: text => c != delimiter && isClean delimiter text
  | _ :: text => isClean delimiter text

namespace Field

----------------------------------------------------------------------------------------
-- Fields
----------------------------------------------------------------------------------------

/-- A character that neither stands alone as a backslash nor escapes another one is no backslash. -/
theorem ne_backslash (alone : c = '\\' → text = [] → False)
    (escapes : ∀ next rest, c = '\\' → text = next :: rest → False)
    : c ≠ '\\' := by
  rintro rfl
  cases text with
  | nil => exact alone rfl rfl
  | cons next rest => exact escapes next rest rfl rfl

/-- A delimiter that nothing comes before ends an empty field. -/
theorem cut_delimiter (simple : delimiter ≠ '\\') (text : List Char)
    : cut delimiter (delimiter :: text) = ⟨[], text, true⟩ := by
  simp [cut, simple]

/-- A character that neither escapes nor delimits belongs to the field. -/
theorem cut_cons (plain : c ≠ '\\') (other : c ≠ delimiter) (text : List Char)
    : cut delimiter (c :: text) = (cut delimiter text).prepend [c] := by
  simp [cut, plain, other]

/-- What lies behind a field is an end of the text that it was cut from. -/
theorem cut_rest_suffix (delimiter : Char) (text : List Char)
    : (cut delimiter text).rest <:+ text := by
  fun_induction cut delimiter text with
  | case1 => exact List.suffix_refl _
  | case2 => exact List.nil_suffix
  | case3 c text ih => exact (ih.trans (List.suffix_cons c text)).trans (List.suffix_cons '\\' _)
  | case4 text => exact List.suffix_cons _ _
  | case5 c text _ _ _ ih => exact ih.trans (List.suffix_cons c text)

/-- A field with the delimiter can hold the text: behind the text, the delimiter ends the field. -/
def Holds (delimiter : Char) (body : List Char) : Prop :=
  (cut delimiter (body ++ [delimiter])).body = body

/-- A field can be empty. -/
theorem holds_nil (simple : delimiter ≠ '\\') : Holds delimiter [] := by
  simp [Holds, cut_delimiter simple]

/-- A body that a field holds is cut off in front of any text. By induction on how the body itself
is cut: a body with a delimiter in it would end there, and one that ends in an escape would take
the delimiter behind it into the field.
-/
theorem cut_of_holds (simple : delimiter ≠ '\\') (holds : Holds delimiter body)
    (rest : List Char)
    : cut delimiter (body ++ delimiter :: rest) = ⟨body, rest, true⟩ := by
  unfold Holds at holds
  fun_induction cut delimiter body with
  | case1 => exact cut_delimiter simple rest
  | case2 => simp [cut, prepend] at holds
  | case3 c text ih =>
      simp only [List.cons_append, cut, prepend, List.nil_append, List.cons.injEq, true_and]
        at holds
      simp [cut, prepend, ih holds]
  | case4 text =>
      rw [List.cons_append, cut_delimiter simple] at holds
      cases holds
  | case5 c text alone escape other ih =>
      have plain := ne_backslash alone escape
      rw [List.cons_append, cut_cons plain other] at holds ⊢
      simp only [prepend, List.cons_append, List.nil_append, List.cons.injEq, true_and] at holds
      simp [prepend, ih holds]

/-- A closed field is cut off in front of its delimiter, and holds its body whatever stands behind.
By induction on how the text is cut.
-/
theorem eq_append_of_closed (simple : delimiter ≠ '\\')
    (closed : (cut delimiter text).closed = true)
    : text = (cut delimiter text).body ++ delimiter :: (cut delimiter text).rest
      ∧ Holds delimiter (cut delimiter text).body := by
  fun_induction cut delimiter text with
  | case1 | case2 => cases closed
  | case3 c text ih =>
      obtain ⟨same, holds⟩ := ih closed
      unfold Holds at holds ⊢
      refine ⟨congrArg ('\\' :: c :: ·) same, ?_⟩
      simp [cut, prepend, holds]
  | case4 text => exact ⟨rfl, holds_nil simple⟩
  | case5 c text alone escapes other ih =>
      obtain ⟨same, holds⟩ := ih closed
      have plain := ne_backslash alone escapes
      unfold Holds at holds ⊢
      refine ⟨congrArg (c :: ·) same, ?_⟩
      simp only [prepend, List.cons_append, List.nil_append, cut_cons plain other, holds]

/-- A field can hold every clean text with its delimiters escaped, by induction on how the text is
scanned.
-/
theorem holds_escape (simple : delimiter ≠ '\\') (clean : isClean delimiter text)
    : Holds delimiter (escape delimiter text) := by
  fun_induction isClean delimiter text with
  | case1 => exact holds_nil simple
  | case2 => cases clean
  | case3 c text ih =>
      obtain ⟨other, clean⟩ := Bool.and_eq_true_iff.mp clean
      have holds := ih clean
      unfold Holds at holds ⊢
      rw [escape_cons_of_ne simple.symm, escape_cons_of_ne (bne_iff_ne.mp other)]
      simp [cut, prepend, holds]
  | case4 c text alone escapes ih =>
      have holds := ih clean
      unfold Holds at holds ⊢
      by_cases same : c = delimiter
      · subst same
        simp [escape_cons_self, cut, prepend, holds]
      · have plain := ne_backslash alone escapes
        rw [escape_cons_of_ne same, List.cons_append, cut_cons plain same]
        simp [prepend, holds]

end Field

end Text

end LineEditor
