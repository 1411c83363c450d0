import Mathlib.Data.Set.Function
import LineEditor.Proofs.Text.Fields

/-! Escaped delimiters. A field ends at the first delimiter that no backslash escapes, and
unescaping takes the bodies of fields one to one to the texts in which no delimiter is escaped.
-/

namespace LineEditor.Text

variable {delimiter c : Char} {escaped : Bool} {body text front : List Char}

----------------------------------------------------------------------------------------
-- Scanning
----------------------------------------------------------------------------------------

/-- The character that comes behind the text is escaped. The text is scanned in order, and a
backslash escapes the character behind it unless it is escaped itself.
-/
def escapesNext (text : List Char) : Bool :=
  text.foldl (fun escaped c => !escaped && c == '\\') false

theorem escapesNext_concat (text : List Char) (c : Char)
    : escapesNext (text ++ [c]) = (!escapesNext text && c == '\\') := by
  simp [escapesNext]

/-- Behind a text that does not end escaped the scan starts anew. -/
theorem escapesNext_append (complete : escapesNext front = false) (text : List Char)
    : escapesNext (front ++ text) = escapesNext text := by
  unfold escapesNext at complete ⊢
  rw [List.foldl_append, complete]

/-- An escaped character escapes nothing, whatever it is. -/
theorem escapesNext_pair (c : Char) (text : List Char)
    : escapesNext ('\\' :: c :: text) = escapesNext text :=
  escapesNext_append (by simp [escapesNext] : escapesNext ['\\', c] = false) text

theorem escapesNext_cons (plain : c ≠ '\\') (text : List Char)
    : escapesNext (c :: text) = escapesNext text :=
  escapesNext_append (by simp [escapesNext, plain] : escapesNext [c] = false) text

/-- Of a run of backslashes every other one escapes, so that an odd run escapes what comes behind
it. By induction on the length of the run, which the text before it must not make longer.
-/
theorem escapesNext_run (whole : front.getLast? ≠ some '\\') (count : Nat)
    : escapesNext (front ++ List.replicate count '\\') = decide (count % 2 = 1) := by
  induction count with
  | zero =>
      rw [List.replicate_zero, List.append_nil]
      rcases List.eq_nil_or_concat front with rfl | ⟨init, last, rfl⟩
      · rfl
      · rw [List.concat_eq_append] at whole ⊢
        have other : last ≠ '\\' := by simpa using whole
        simp [escapesNext_concat, other]
  | succ count ih =>
      rw [List.replicate_succ', ← List.append_assoc, escapesNext_concat, ih]
      by_cases odd : count % 2 = 1
      · have even : ¬(count + 1) % 2 = 1 := by omega
        simp [odd, even]
      · have next : (count + 1) % 2 = 1 := by omega
        simp [odd, next]

----------------------------------------------------------------------------------------
-- Delimiters all alike
----------------------------------------------------------------------------------------

/-- The delimiters in a text are all escaped, or none of them is, and the text does not end escaped.
-/
structure Uniform (delimiter : Char) (escaped : Bool) (text : List Char) : Prop where
  delimiters
    : ∀ before behind, text = before ++ delimiter :: behind → escapesNext before = escaped
  complete : escapesNext text = false

theorem uniform_nil : Uniform delimiter escaped [] where
  delimiters := by simp
  complete := rfl

theorem not_uniform_backslash : ¬Uniform delimiter escaped ['\\'] :=
  fun uniform => Bool.noConfusion uniform.complete

/-- Where a character escapes nothing and no delimiter comes before it, it and the text behind it
can be looked at apart, because each delimiter is that character or lies in the text.
-/
theorem uniform_append_cons_iff (absent : delimiter ∉ front)
    (complete : escapesNext (front ++ [c]) = false)
    : Uniform delimiter escaped (front ++ c :: text)
      ↔ (c = delimiter → escapesNext front = escaped) ∧ Uniform delimiter escaped text := by
  have anew (text : List Char) : escapesNext (front ++ c :: text) = escapesNext text := by
    rw [List.append_cons, escapesNext_append complete]
  constructor
  · rintro ⟨delimiters, ends⟩
    refine ⟨?_, ?_, (anew text).symm.trans ends⟩
    · rintro rfl
      exact delimiters front text rfl
    · rintro before behind rfl
      rw [← anew before]
      exact delimiters (front ++ c :: before) behind (by simp)
  · rintro ⟨first, delimiters, ends⟩
    refine ⟨?_, (anew text).trans ends⟩
    intro before behind parts
    rcases List.append_eq_append_iff.mp parts with ⟨inner, rfl, rest⟩ | ⟨inner, rfl, rest⟩
    · rcases inner with _ | ⟨head, inner⟩
      · rw [List.append_nil]
        exact first (List.cons.inj rest).1
      · obtain ⟨rfl, tail⟩ := List.cons.inj rest
        exact (anew inner).trans (delimiters inner behind tail)
    · rcases inner with _ | ⟨head, inner⟩
      · rw [List.append_nil] at first
        exact first (List.cons.inj rest).1.symm
      · obtain ⟨rfl, -⟩ := List.cons.inj rest
        exact absurd List.mem_append_cons_self absent

theorem uniform_cons_iff (plain : c ≠ '\\')
    : Uniform delimiter escaped (c :: text)
      ↔ (c = delimiter → false = escaped) ∧ Uniform delimiter escaped text :=
  uniform_append_cons_iff List.not_mem_nil (escapesNext_cons plain [])

theorem uniform_pair_iff (simple : delimiter ≠ '\\')
    : Uniform delimiter escaped ('\\' :: c :: text)
      ↔ (c = delimiter → true = escaped) ∧ Uniform delimiter escaped text :=
  uniform_append_cons_iff (mt List.mem_singleton.mp simple) (escapesNext_pair c [])

/-- Clean texts are those that do not end escaped and have no escaped delimiter. -/
theorem isClean_iff_uniform (simple : delimiter ≠ '\\')
    : isClean delimiter text = true ↔ Uniform delimiter false text := by
  fun_induction isClean delimiter text with
  | case1 => exact iff_of_true rfl uniform_nil
  | case2 => exact iff_of_false Bool.false_ne_true not_uniform_backslash
  | case3 c text ih =>
      rw [uniform_pair_iff simple, Bool.and_eq_true, ih, bne_iff_ne]
      simp
  | case4 c text alone escapes ih =>
      rw [uniform_cons_iff (Field.ne_backslash alone escapes), ih]
      simp

namespace Field

----------------------------------------------------------------------------------------
-- Where fields end
----------------------------------------------------------------------------------------

/-- A delimiter that is not escaped ends a field, by induction on how the text before it is cut: the
field ends there if it has not ended before.
-/
theorem closed_of_unescaped (simple : delimiter ≠ '\\') (unescaped : escapesNext front = false)
    (behind : List Char)
    : (cut delimiter (front ++ delimiter :: behind)).closed = true := by
  fun_induction cut delimiter front with
  | case1 => simp [cut_delimiter simple]
  | case2 => cases unescaped
  | case3 c text ih =>
      rw [escapesNext_pair] at unescaped
      exact ih unescaped
  | case4 text => simp [cut_delimiter simple]
  | case5 c text alone escapes other ih =>
      have plain := ne_backslash alone escapes
      rw [escapesNext_cons plain] at unescaped
      rw [List.cons_append, cut_cons plain other]
      exact ih unescaped

/-- In a field that is closed every delimiter is escaped, by induction on how the text is cut. -/
theorem uniform_of_closed (simple : delimiter ≠ '\\')
    (closed : (cut delimiter text).closed = true)
    : Uniform delimiter true (cut delimiter text).body := by
  fun_induction cut delimiter text with
  | case1 | case2 => cases closed
  | case3 c text ih => exact (uniform_pair_iff simple).mpr ⟨fun _ => rfl, ih closed⟩
  | case4 text => exact uniform_nil
  | case5 c text alone escapes other ih =>
      exact (uniform_cons_iff (ne_backslash alone escapes)).mpr
        ⟨fun same => absurd same other, ih closed⟩

/-- A field without its delimiter takes the whole text. -/
theorem eq_of_not_closed (opened : (cut delimiter text).closed = false)
    : cut delimiter text = ⟨text, [], false⟩ := by
  fun_induction cut delimiter text with
  | case1 | case2 => rfl
  | case3 c text ih =>
      rw [ih opened]
      rfl
  | case4 text => cases opened
  | case5 c text _ _ _ ih =>
      rw [ih opened]
      rfl

----------------------------------------------------------------------------------------
-- Bodies
----------------------------------------------------------------------------------------

/-- The bodies of all fields that end with the delimiter. -/
def bodies (delimiter : Char) : Set (List Char) :=
  {body | ∃ text, (cut delimiter text).closed = true ∧ (cut delimiter text).body = body}

/-- A text whose delimiters are all escaped is some text with escapes put in, by induction on how it
would be cut as a field. Each of its delimiters comes right behind the backslash that escapes it.
-/
theorem exists_escape_of_uniform (simple : delimiter ≠ '\\')
    (uniform : Uniform delimiter true body)
    : ∃ text, Uniform delimiter false text ∧ escape delimiter text = body := by
  fun_induction cut delimiter body with
  | case1 => exact ⟨[], uniform_nil, rfl⟩
  | case2 => exact absurd uniform not_uniform_backslash
  | case3 c body ih =>
      obtain ⟨-, rest⟩ := (uniform_pair_iff simple).mp uniform
      obtain ⟨text, unescaped, rfl⟩ := ih rest
      by_cases same : c = delimiter
      · subst same
        refine ⟨c :: text, (uniform_cons_iff simple).mpr ⟨fun _ => rfl, unescaped⟩, ?_⟩
        exact escape_cons_self text
      · refine ⟨'\\' :: c :: text, ?_, ?_⟩
        · exact (uniform_pair_iff simple).mpr ⟨fun equal => absurd equal same, unescaped⟩
        · rw [escape_cons_of_ne simple.symm, escape_cons_of_ne same]
  | case4 body =>
      obtain ⟨first, -⟩ := (uniform_cons_iff simple).mp uniform
      exact Bool.noConfusion (first rfl)
  | case5 c body alone escapes other ih =>
      have plain := ne_backslash alone escapes
      obtain ⟨text, unescaped, rfl⟩ := ih ((uniform_cons_iff plain).mp uniform).2
      refine ⟨c :: text, (uniform_cons_iff plain).mpr ⟨fun _ => rfl, unescaped⟩, ?_⟩
      exact escape_cons_of_ne other text

/-- What escaping makes of a text whose delimiters are all unescaped is the body of a field. -/
theorem escape_mem_bodies (simple : delimiter ≠ '\\') (unescaped : Uniform delimiter false text)
    : escape delimiter text ∈ bodies delimiter := by
  have holds := holds_escape simple ((isClean_iff_uniform simple).mpr unescaped)
  have found := cut_of_holds simple holds []
  exact ⟨escape delimiter text ++ [delimiter], by rw [found], by rw [found]⟩

/-- The bodies of fields are the texts whose delimiters are all escaped and which do not end
escaped.
-/
theorem bodies_eq (simple : delimiter ≠ '\\')
    : bodies delimiter = {body | Uniform delimiter true body} := by
  ext body
  constructor
  · rintro ⟨text, closed, rfl⟩
    exact uniform_of_closed simple closed
  · intro uniform
    obtain ⟨text, unescaped, rfl⟩ := exists_escape_of_uniform simple uniform
    exact escape_mem_bodies simple unescaped

/-- Escaping undoes unescaping on the bodies of fields, and unescaping undoes escaping. -/
theorem invOn_escape (simple : delimiter ≠ '\\')
    : Set.InvOn (escape delimiter) (unescape delimiter) (bodies delimiter)
        {text | Uniform delimiter false text} := by
  refine ⟨?_, fun text _ => unescape_escape simple text⟩
  rw [bodies_eq simple]
  intro body uniform
  obtain ⟨text, -, rfl⟩ := exists_escape_of_uniform simple uniform
  rw [unescape_escape simple]

/-- Unescaping takes the bodies of fields to texts whose delimiters are all unescaped. -/
theorem mapsTo_unescape (simple : delimiter ≠ '\\')
    : Set.MapsTo (unescape delimiter) (bodies delimiter)
        {text | Uniform delimiter false text} := by
  rw [bodies_eq simple]
  intro body uniform
  obtain ⟨text, unescaped, rfl⟩ := exists_escape_of_uniform simple uniform
  rwa [unescape_escape simple]

/-- A field ends with its delimiter exactly if the text has one that is not escaped, and the first
such is where it ends; else the field takes the whole text. Unescaping takes the bodies of fields,
which are the texts whose delimiters are all escaped and which do not end escaped, one to one to
the texts whose delimiters are all unescaped and which do not end escaped; putting a backslash
before every delimiter takes them back. No body stands for a text with a delimiter right behind an
odd run of backslashes.
-/
theorem bodies_unescape_one_to_one (simple : delimiter ≠ '\\')
    : (∀ text,
          let field := cut delimiter text
          (field.closed = true
              ↔ ∃ before behind,
                text = before ++ delimiter :: behind ∧ escapesNext before = false)
          ∧ (field.closed = true
              → text = field.body ++ delimiter :: field.rest
                ∧ escapesNext field.body = false
                ∧ ∀ before behind,
                  field.body = before ++ delimiter :: behind → escapesNext before = true)
          ∧ (field.closed = false → field.body = text ∧ field.rest = []))
      ∧ bodies delimiter = {body | Uniform delimiter true body}
      ∧ Set.BijOn (unescape delimiter) (bodies delimiter) {text | Uniform delimiter false text}
      ∧ Set.InvOn (escape delimiter) (unescape delimiter) (bodies delimiter)
          {text | Uniform delimiter false text}
      ∧ ∀ front half behind,
        front.getLast? ≠ some '\\'
        → ∀ body ∈ bodies delimiter,
          unescape delimiter body
            ≠ front ++ List.replicate (2 * half + 1) '\\' ++ delimiter :: behind := by
  have inverse := invOn_escape simple
  have into := mapsTo_unescape simple
  refine ⟨?_, bodies_eq simple, inverse.bijOn into fun _ => escape_mem_bodies simple, inverse, ?_⟩
  · intro text field
    have ends (closed : field.closed = true) :=
      And.intro (eq_append_of_closed simple closed).1 (uniform_of_closed simple closed)
    refine ⟨⟨?_, ?_⟩, ?_, ?_⟩
    · intro closed
      exact ⟨field.body, field.rest, (ends closed).1, (ends closed).2.complete⟩
    · rintro ⟨before, behind, rfl, unescaped⟩
      exact closed_of_unescaped simple unescaped behind
    · intro closed
      exact ⟨(ends closed).1, (ends closed).2.complete, (ends closed).2.delimiters⟩
    · intro opened
      have whole : field = ⟨text, [], false⟩ := eq_of_not_closed opened
      simp only [whole, and_self]
  · intro front half behind whole body member same
    have unescaped := (into member).delimiters _ _ same
    rw [escapesNext_run whole] at unescaped
    simp at unescaped

/-- A slash behind three backslashes is the body's own; unescaped, it comes behind two of them. A
slash behind one backslash is in no field that ends with a slash.
-/
theorem bodies_unescape_one_to_one_slashed
    : '/' ≠ '\\'
      ∧ cut '/' "a\\\\\\/b/c".toList = ⟨"a\\\\\\/b".toList, "c".toList, true⟩
      ∧ unescape '/' "a\\\\\\/b".toList = "a\\\\/b".toList
      ∧ Uniform '/' false "a\\\\/b".toList
      ∧ escape '/' "a\\\\/b".toList = "a\\\\\\/b".toList
      ∧ ∀ body ∈ bodies '/', unescape '/' body ≠ "a\\/b".toList := by
  have simple : '/' ≠ '\\' := by decide
  obtain ⟨-, -, bijective, inverse, unwritten⟩ := bodies_unescape_one_to_one simple
  have field : cut '/' "a\\\\\\/b/c".toList = ⟨"a\\\\\\/b".toList, "c".toList, true⟩ := by decide
  have member : "a\\\\\\/b".toList ∈ bodies '/' :=
    ⟨"a\\\\\\/b/c".toList, by rw [field], by rw [field]⟩
  have unescaped : unescape '/' "a\\\\\\/b".toList = "a\\\\/b".toList := by decide
  refine ⟨simple, field, unescaped, ?_, ?_, ?_⟩
  · exact unescaped ▸ bijective.mapsTo member
  · exact unescaped ▸ inverse.1 member
  · exact unwritten ['a'] 0 ['b'] (by decide)

end Field

end LineEditor.Text
