/-! Delimited fields: text up to a delimiter, where a backslash escapes the character after it. -/

namespace LineEditor.Text

/-- A field cut from the front of a text: what it holds, the text behind its delimiter, and
whether the delimiter was there.
-/
structure Field where
  body : List Char
  rest : List Char
  closed : Bool
  deriving DecidableEq, Repr

namespace Field

/-- Adds text in front of what the field holds. -/
def prepend (front : List Char) (field : Field) : Field :=
  { field with body := front ++ field.body }

/-- Cuts the field that ends at the first delimiter that no backslash escapes. Without one the
field takes the whole text.
-/
def cut (delimiter : Char) : List Char → Field
  | [] => ⟨[], [], false⟩
  | ['\\'] => ⟨['\\'], [], false⟩
  | '\\' :: c :: text => (cut delimiter text).prepend ['\\', c]
  | c :: text => if c = delimiter then ⟨[], text, true⟩ else (cut delimiter text).prepend [c]

/-- What lies behind a field is no longer than the text it was cut from, because cutting only
takes characters.
-/
theorem cut_rest_length_le (delimiter : Char) (text : List Char)
    : (cut delimiter text).rest.length ≤ text.length := by
  fun_induction cut delimiter text <;> simp_all [prepend] <;> omega

end Field

/-- Takes away every backslash that stands before the delimiter. -/
def unescape (delimiter : Char) : List Char → List Char
  | [] => []
  | [c] => [c]
  | c :: next :: text =>
      if c = '\\' ∧ next = delimiter then unescape delimiter (next :: text)
      else c :: unescape delimiter (next :: text)

/-- Puts a backslash before every delimiter. -/
def escape (delimiter : Char) : List Char → List Char
  | [] => []
  | c :: text =>
      if c = delimiter then '\\' :: c :: escape delimiter text
      else c :: escape delimiter text

end LineEditor.Text
