import Mathlib.Data.List.TakeWhile
import LineEditor.Toml.Text

/-! Strings of configuration documents that are written are read back, whatever is in them. Each
form is undone by a reader of its own, and the quotes in front tell which form it is.
-/

namespace LineEditor.Toml

variable {c quote : Char} {run : Nat} {text body written rest : List Char}

----------------------------------------------------------------------------------------
-- One character
----------------------------------------------------------------------------------------

/-- What is written where escapes are in use is read as a character: the character itself, or an
escape that stands for it and does not hide a line end.
-/
inductive Spells (c : Char) : List Char → Prop
  | plain (plain : isPlain c) (unquoted : c ≠ '"') (unescaped : c ≠ '\\') : Spells c [c]
  | escape (body : List Char) (found : ∀ rest, escapedChar (body ++ rest) = some (c, body.length))
    (unhidden : ∀ rest, gapLength? (body ++ rest) = none) : Spells c ('\\' :: body)

theorem ne_of_isPlain (plain : isPlain c) : c ≠ '\n' ∧ c ≠ '\r' := by
  constructor <;> rintro rfl <;> exact absurd plain (by decide)

theorem isPlain_or_of_not_needsCode (uncoded : ¬ needsCode c) : isPlain c ∨ c = '\n' := by
  simpa [needsCode, or_iff_not_imp_left] using uncoded

theorem ne_of_not_needsCode (uncoded : ¬ needsCode c) : c ≠ '\r' := by
  rintro rfl
  exact uncoded (by decide)

/-- The characters that stand for themselves start where the controls end. -/
theorem lt_of_not_isPlain (coded : ¬ isPlain c) : c.toNat < 128 := by
  by_contra above
  refine coded ?_
  have other : c ≠ '\x7F' := by
    rintro rfl
    exact above (by decide)
  have high : ' ' ≤ c := Char.le_def.mpr (UInt32.le_iff_toNat_le.mpr (by
    change 32 ≤ c.toNat
    omega))
  simp [isPlain, high, other]

/-- An escape by code has the digits of the code behind two characters. -/
theorem codeEscape_of_lt (code : c.toNat < 128)
    : ∃ digits,
        codeEscape c = '\\' :: 'u' :: digits
        ∧ digits.length = 4
        ∧ hexNumber digits = some c.toNat := by
  have all : ∀ code < 128,
      let escape := codeEscape (Char.ofNat code)
      escape = '\\' :: 'u' :: escape.drop 2
        ∧ (escape.drop 2).length = 4
        ∧ hexNumber (escape.drop 2) = some code := by
    decide +kernel
  have spelt := all c.toNat code
  rw [Char.ofNat_toNat] at spelt
  exact ⟨_, spelt⟩

theorem codedChar_append {digits : List Char} (spelt : hexNumber digits = some c.toNat)
    (rest : List Char)
    : codedChar digits.length (digits ++ rest) = some c := by
  have valid : c.toNat.isValidChar := c.valid
  simp [codedChar, spelt, valid, Char.ofNat_toNat]

theorem spells_codeEscape (coded : ¬ isPlain c) : Spells c (codeEscape c) := by
  obtain ⟨digits, escape, count, spelt⟩ := codeEscape_of_lt (lt_of_not_isPlain coded)
  rw [escape]
  refine .escape _ ?_ fun _ => rfl
  intro rest
  have found := codedChar_append spelt rest
  rw [count] at found
  simp [escapedChar, found, count]

theorem spells_escapeChar (unquoted : c ≠ '"') : Spells c (escapeChar c) := by
  unfold escapeChar
  split_ifs with backspace tab formFeed carriageReturn backslash plain
  · exact backspace ▸ .escape _ (fun _ => rfl) fun _ => rfl
  · exact tab ▸ .escape _ (fun _ => rfl) fun _ => rfl
  · exact formFeed ▸ .escape _ (fun _ => rfl) fun _ => rfl
  · exact carriageReturn ▸ .escape _ (fun _ => rfl) fun _ => rfl
  · subst backslash
    exact .escape _ (fun _ => rfl) fun _ => rfl
  · exact .plain plain unquoted backslash
  · exact spells_codeEscape plain

theorem spells_double : Spells '"' ['\\', '"'] :=
  .escape _ (fun _ => rfl) fun _ => rfl

/-- What a character is written as starts with no quote and no end of a line. -/
theorem Spells.starts (spells : Spells c written)
    : ∃ first behind,
        written = first :: behind ∧ first ≠ '"' ∧ first ≠ '\n' ∧ first ≠ '\r' := by
  cases spells with
  | plain plain unquoted => exact ⟨c, [], rfl, unquoted, ne_of_isPlain plain⟩
  | escape body => exact ⟨'\\', body, rfl, by decide, by decide, by decide⟩

----------------------------------------------------------------------------------------
-- Strings of one line
----------------------------------------------------------------------------------------

theorem readBasic_skip (skipped rest : List Char)
    : readBasic skipped.length (skipped ++ rest) = readBasic 0 rest := by
  induction skipped with
  | nil => rfl
  | cons c skipped ih => exact ih

theorem Spells.readBasic (spells : Spells c written)
    : readBasic 0 (written ++ rest) = withChar c (readBasic 0 rest) := by
  cases spells with
  | plain plain unquoted unescaped => simp [Toml.readBasic, plain, unquoted, unescaped]
  | escape body found => simp [Toml.readBasic, found, readBasic_skip]

/-- Inside a string of one line every character is written so that it is read again. -/
theorem writeBasic_cons (c : Char) (text : List Char)
    : ∃ written, Spells c written ∧ writeBasic (c :: text) = written ++ writeBasic text := by
  refine ⟨_, ?_, List.flatMap_cons⟩
  split_ifs with double lineFeed
  · subst double
    exact spells_double
  · exact lineFeed ▸ .escape _ (fun _ => rfl) fun _ => rfl
  · exact spells_escapeChar double

theorem readBasic_writeBasic (text rest : List Char)
    : readBasic 0 (writeBasic text ++ '"' :: rest) = some (text, rest) := by
  induction text with
  | nil => rfl
  | cons c text ih =>
      obtain ⟨written, spells, eq⟩ := writeBasic_cons c text
      rw [eq, List.append_assoc, spells.readBasic, ih]
      rfl

theorem readLiteral_append (plain : ∀ c ∈ text, isPlain c) (unquoted : '\'' ∉ text)
    (rest : List Char)
    : readLiteral (text ++ '\'' :: rest) = some (text, rest) := by
  induction text with
  | nil => rfl
  | cons c text ih =>
      rw [List.forall_mem_cons] at plain
      rw [List.mem_cons, not_or] at unquoted
      simp [readLiteral, plain.1, Ne.symm unquoted.1, ih plain.2 unquoted.2, withChar]

----------------------------------------------------------------------------------------
-- Quotes in strings of several lines
----------------------------------------------------------------------------------------

/-- Up to two quotes at the end of a string stand in front of those that close it. -/
theorem closing?_replicate (count : Nat) (few : count ≤ 2) (behind : rest.head? ≠ some quote)
    : closing? quote (List.replicate (count + 2) quote ++ rest)
      = some (List.replicate count quote, rest) := by
  have none : rest.takeWhile (· = quote) = [] := by
    cases rest with
    | nil => rfl
    | cons c rest => exact List.takeWhile_cons_of_neg (by simpa using behind)
  have inner
      : ((List.replicate count quote ++ rest).takeWhile (· = quote)).take 2
        = List.replicate count quote := by
    rw [List.takeWhile_append_of_pos (by simp), none, List.append_nil, List.take_of_length_le]
    rwa [List.length_replicate]
  simp only [List.replicate_succ, List.cons_append, closing?, inner, List.length_replicate]
  simp

theorem closing?_eq_none (few : (body.takeWhile (· = quote)).length ≤ 1)
    (other : ∃ c ∈ body, c ≠ quote)
    : closing? quote (body ++ rest) = none := by
  match body with
  | [] => simp at other
  | [c] =>
      have ne : c ≠ quote := by simpa using other
      cases rest <;> simp [closing?, ne]
  | first :: second :: body =>
      have ne : ¬ (first = quote ∧ second = quote) := by
        rintro ⟨rfl, rfl⟩
        simp at few
      rw [List.cons_append, List.cons_append, closing?, if_neg (by simpa using ne)]

/-- A quote closes a string with no more than two quotes in a row if nothing but quotes follows. -/
theorem closing?_append (few : (body.takeWhile (· = quote)).length ≤ 1)
    (behind : rest.head? ≠ some quote)
    : closing? quote (body ++ quote :: quote :: quote :: rest)
      = if body.all (· = quote) then some (quote :: body, rest) else none := by
  split_ifs with all
  · obtain ⟨count, rfl⟩ : ∃ count, body = List.replicate count quote :=
      ⟨_, List.eq_replicate_of_mem (by simpa using all)⟩
    rw [List.takeWhile_eq_self_iff.mpr (by simp), List.length_replicate] at few
    have closed := closing?_replicate _ (Nat.add_le_add_right few 1) behind
    rw [Nat.add_assoc, ← List.replicate_append_replicate, List.append_assoc] at closed
    simpa [List.replicate_succ] using closed
  · exact closing?_eq_none few (by simpa using all)

/-- The quotes in front make a run that the longest one is no shorter than. -/
theorem takeWhile_length_le_longestRun (wanted : Char) (run : Nat) (text : List Char)
    : (text.takeWhile (· = wanted)).length + run ≤ longestRun wanted run text := by
  fun_induction longestRun wanted run text with
  | case1 run => simp
  | case2 run text ih =>
      rw [List.takeWhile_cons_of_pos (by simp), List.length_cons]
      omega
  | case3 run c text other ih =>
      rw [List.takeWhile_cons_of_neg (by simpa using other), List.length_nil, Nat.zero_add]
      exact Nat.le_max_left ..

theorem longestRun_ne_zero (member : quote ∈ text) : longestRun quote run text ≠ 0 := by
  fun_induction longestRun quote run text with
  | case1 run => cases member
  | case2 run text ih =>
      have := takeWhile_length_le_longestRun quote (run + 1) text
      omega
  | case3 run c text other ih =>
      have := ih ((List.mem_cons.mp member).resolve_left (Ne.symm other))
      omega

----------------------------------------------------------------------------------------
-- Strings of several lines
----------------------------------------------------------------------------------------

theorem readLongBasic_skip (skipped rest : List Char)
    : readLongBasic skipped.length (skipped ++ rest) = readLongBasic 0 rest := by
  induction skipped with
  | nil => rfl
  | cons c skipped ih => exact ih

theorem Spells.readLongBasic (spells : Spells c written)
    : readLongBasic 0 (written ++ rest) = withChar c (readLongBasic 0 rest) := by
  cases spells with
  | plain plain unquoted unescaped =>
      simp [Toml.readLongBasic, plain, unquoted, unescaped, (ne_of_isPlain plain).2]
  | escape body found unhidden =>
      simp [Toml.readLongBasic, found, unhidden, readLongBasic_skip]

/-- No more than two quotes in a row are written without an escape. -/
theorem takeWhile_writeLongBasic (within : run ≤ 2) (text : List Char)
    : ((writeLongBasic run text).takeWhile (· = '"')).length + run ≤ 2 := by
  fun_induction writeLongBasic run text with
  | case1 run => simpa
  | case2 run text few ih =>
      have := ih (by omega)
      rw [List.takeWhile_cons_of_pos (by simp), List.length_cons]
      omega
  | case3 run text many ih => simpa
  | case4 run text unquoted ih => simpa
  | case5 run c text unquoted other ih =>
      obtain ⟨first, behind, escape, ne, -⟩ := (spells_escapeChar unquoted).starts
      simpa [escape, ne]

/-- Where nothing but quotes is written, the string has no other characters. -/
theorem writeLongBasic_of_all (all : ∀ c ∈ writeLongBasic run text, c = '"')
    : writeLongBasic run text = text := by
  fun_induction writeLongBasic run text with
  | case1 run => rfl
  | case2 run text few ih => rw [ih (List.forall_mem_cons.mp all).2]
  | case3 run text many ih => simp at all
  | case4 run text unquoted ih => simp at all
  | case5 run c text unquoted other ih =>
      obtain ⟨first, behind, escape, ne, -⟩ := (spells_escapeChar unquoted).starts
      exact absurd (all first (by simp [escape])) ne

/-- A string with escapes is read back. By induction on what is written, with the count of quotes
that have just been written.
-/
theorem readLongBasic_writeLongBasic (within : run ≤ 2) (behind : rest.head? ≠ some '"')
    : readLongBasic 0 (writeLongBasic run text ++ '"' :: '"' :: '"' :: rest)
      = some (text, rest) := by
  fun_induction writeLongBasic run text with
  | case1 run =>
      have closed : closing? '"' ('"' :: '"' :: rest) = some ([], rest) :=
        closing?_replicate 0 (by decide) behind
      rw [List.nil_append, readLongBasic, if_pos rfl, closed]
  | case2 run text few ih =>
      have quotes : ((writeLongBasic (run + 1) text).takeWhile (· = '"')).length ≤ 1 := by
        have := takeWhile_writeLongBasic (show run + 1 ≤ 2 from few) text
        omega
      have closed := closing?_append quotes behind
      rw [List.cons_append, readLongBasic, if_pos rfl, closed]
      split_ifs with all
      · rw [writeLongBasic_of_all (by simpa using all)]
      · rw [ih (by omega)]
        rfl
  | case3 run text many ih =>
      have shape : '\\' :: '"' :: writeLongBasic 0 text = ['\\', '"'] ++ writeLongBasic 0 text := rfl
      rw [shape, List.append_assoc, spells_double.readLongBasic, ih (by decide)]
      rfl
  | case4 run text unquoted ih =>
      rw [List.cons_append, readLongBasic]
      simp [ih, withChar]
  | case5 run c text unquoted other ih =>
      rw [List.append_assoc, (spells_escapeChar unquoted).readLongBasic, ih (by decide)]
      rfl

/-- A string without escapes is read back where it has few quotes in a row. -/
theorem readLongLiteral_append (uncoded : ∀ c ∈ text, ¬ needsCode c)
    (few : longestRun '\'' run text ≤ 2) (behind : rest.head? ≠ some '\'')
    : readLongLiteral (text ++ '\'' :: '\'' :: '\'' :: rest) = some (text, rest) := by
  fun_induction longestRun '\'' run text with
  | case1 run =>
      have closed : closing? '\'' ('\'' :: '\'' :: rest) = some ([], rest) :=
        closing?_replicate 0 (by decide) behind
      rw [List.nil_append, readLongLiteral, if_pos rfl, closed]
  | case2 run text ih =>
      have quotes : (text.takeWhile (· = '\'')).length ≤ 1 := by
        have := takeWhile_length_le_longestRun '\'' (run + 1) text
        omega
      have closed := closing?_append quotes behind
      rw [List.cons_append, readLongLiteral, if_pos rfl, closed]
      split_ifs with all
      · rfl
      · rw [ih (List.forall_mem_cons.mp uncoded).2 few]
        rfl
  | case3 run c text other ih =>
      rw [List.forall_mem_cons] at uncoded
      have plain := isPlain_or_of_not_needsCode uncoded.1
      have carriageReturn := ne_of_not_needsCode uncoded.1
      have inside : longestRun '\'' 0 text ≤ 2 := (Nat.le_max_right ..).trans few
      simp [readLongLiteral, other, carriageReturn, plain, ih uncoded.2 inside, withChar]

----------------------------------------------------------------------------------------
-- All forms
----------------------------------------------------------------------------------------

/-- A string in quotes of one kind without escapes is not empty, and holds neither those quotes nor
the end of a line.
-/
theorem literal_of_choose (chosen : TextForm.choose text = .literal)
    : text ≠ [] ∧ (∀ c ∈ text, isPlain c) ∧ '\'' ∉ text := by
  have some : text ≠ [] := by
    rintro rfl
    cases chosen
  refine ⟨some, ?_⟩
  dsimp only [TextForm.choose] at chosen
  split_ifs at chosen with basic literal
  simp only [Bool.and_eq_true, Bool.not_eq_true', decide_eq_true_eq] at literal
  obtain ⟨⟨codes, single⟩, lines⟩ := literal
  constructor
  · intro c member
    have inside : c ≠ '\n' := by
      rintro rfl
      simp [member] at lines
    exact (isPlain_or_of_not_needsCode (List.any_eq_false.mp codes c member)).resolve_right inside
  · exact fun member => longestRun_ne_zero member single

theorem longLiteral_of_choose (chosen : TextForm.choose text = .longLiteral)
    : (∀ c ∈ text, ¬ needsCode c) ∧ longestRun '\'' 0 text ≤ 2 := by
  dsimp only [TextForm.choose] at chosen
  split_ifs at chosen with basic literal longBasic longLiteral
  simp only [Bool.and_eq_true, Bool.not_eq_true', decide_eq_true_eq] at longLiteral
  exact ⟨List.any_eq_false.mp longLiteral.1, longLiteral.2⟩

/-- A long form that starts on a line of its own is read from there, and others from their start. -/
theorem lineEnd?_start (unopened : '\n' ∉ text → lineEnd? written = none) {start : List Char}
    (starts : start = if text.contains '\n' then ['\n'] else [])
    : (lineEnd? (start ++ written)).getD (start ++ written) = written := by
  subst starts
  split_ifs with lines
  · rfl
  · rw [List.nil_append, unopened (by simpa using lines), Option.getD_none]

theorem lineEnd?_writeLongBasic (text : List Char) (single : '\n' ∉ text)
    : lineEnd? (writeLongBasic 0 text ++ '"' :: rest) = none := by
  cases text with
  | nil => rfl
  | cons c text =>
      rw [List.mem_cons, not_or] at single
      by_cases double : c = '"'
      · simp [writeLongBasic, double, lineEnd?]
      · obtain ⟨first, behind, escape, -, lineFeed, carriageReturn⟩ :=
          (spells_escapeChar double).starts
        simp [writeLongBasic, double, Ne.symm single.1, escape, lineEnd?, lineFeed, carriageReturn]

theorem lineEnd?_uncoded (uncoded : ∀ c ∈ text, ¬ needsCode c) (single : '\n' ∉ text)
    : lineEnd? (text ++ '\'' :: rest) = none := by
  cases text with
  | nil => rfl
  | cons c text =>
      rw [List.mem_cons, not_or] at single
      rw [List.forall_mem_cons] at uncoded
      simp [lineEnd?, Ne.symm single.1, ne_of_not_needsCode uncoded.1]

theorem readText_double (single : body.head? ≠ some '"' ∨ body.tail.head? ≠ some '"')
    : readText ('"' :: body) = readBasic 0 body := by
  unfold readText
  split
  · simp_all
  · simp_all
  · rfl

theorem readText_single (single : body.head? ≠ some '\'')
    : readText ('\'' :: body) = readLiteral body := by
  unfold readText
  split
  · simp_all
  · simp_all
  · rfl

/-- A string that is written is read back, and ends where no more quotes follow. -/
theorem readText_writeText (text rest : List Char) (double : rest.head? ≠ some '"')
    (single : rest.head? ≠ some '\'')
    : readText (writeText text ++ rest) = some (text, rest) := by
  unfold writeText
  extract_lets start
  cases chosen : TextForm.choose text with
  | basic =>
      have shape
          : '"' :: writeBasic text ++ ['"'] ++ rest = '"' :: (writeBasic text ++ '"' :: rest) := by
        simp
      dsimp only
      rw [shape, readText_double, readBasic_writeBasic]
      cases text with
      | nil => exact .inr double
      | cons c text =>
          obtain ⟨written, spells, eq⟩ := writeBasic_cons c text
          obtain ⟨first, behind, rfl, ne, -⟩ := spells.starts
          exact .inl (by simpa [eq] using ne)
  | literal =>
      obtain ⟨some, plain, unquoted⟩ := literal_of_choose chosen
      have shape : '\'' :: text ++ ['\''] ++ rest = '\'' :: (text ++ '\'' :: rest) := by simp
      dsimp only
      rw [shape, readText_single, readLiteral_append plain unquoted]
      cases text with
      | nil => exact absurd rfl some
      | cons c text => exact fun head => unquoted (by simp_all)
  | longBasic =>
      have shape
          : "\"\"\"".toList ++ start ++ writeLongBasic 0 text ++ "\"\"\"".toList ++ rest
            = '"' :: '"' :: '"'
              :: (start ++ (writeLongBasic 0 text ++ '"' :: '"' :: '"' :: rest)) := by
        simp
      dsimp only
      rw [shape, readText, lineEnd?_start (lineEnd?_writeLongBasic text) rfl,
        readLongBasic_writeLongBasic (by decide) double]
  | longLiteral =>
      obtain ⟨uncoded, few⟩ := longLiteral_of_choose chosen
      have shape
          : "'''".toList ++ start ++ text ++ "'''".toList ++ rest
            = '\'' :: '\'' :: '\'' :: (start ++ (text ++ '\'' :: '\'' :: '\'' :: rest)) := by
        simp
      dsimp only
      rw [shape, readText, lineEnd?_start (lineEnd?_uncoded uncoded) rfl,
        readLongLiteral_append uncoded few single]

end LineEditor.Toml
