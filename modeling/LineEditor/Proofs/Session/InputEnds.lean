import LineEditor.Input

/-! Ends of the input. A line that cannot be decoded answers like the end of the input, once: where
a line that can be decoded stands behind it, the input goes on. Text that is taken from the input
ends at such a line, and leaves what stands behind it.
-/

namespace LineEditor.Input

/-- What the input answers when it is asked again and again, counting from zero. -/
def answer : Input → Nat → Option String
  | input, 0 => input.next.1
  | input, count + 1 => input.next.2.answer count

/-- Behind a line that cannot be decoded there is none that can be. -/
def EndsForGood (lines : List (Option String)) : Prop :=
  lines.Pairwise fun first second => first = none → second = none

instance decidableEndsForGood (lines : List (Option String)) : Decidable (EndsForGood lines) :=
  inferInstanceAs (Decidable (List.Pairwise _ _))

/-- The text in front is broken off by a line that cannot be decoded, before a lone dot ends it. -/
structure BreaksOff (pending : List (Option String)) (text : List String)
    (behind : List (Option String))
    : Prop where
  dotless : "." ∉ text
  lines : pending = text.map some ++ none :: behind

/-- The lines that taking text takes, with the line that ends the text. -/
def textLines : List (Option String) → List (Option String)
  | [] => []
  | none :: _ => [none]
  | some line :: pending =>
      if line = "." then [some line] else some line :: textLines pending

/-- The text that the input holds for a command: its lines before the first lone dot, or all of them
where there is none.
-/
def text (input : Input) : List String :=
  input.lines.takeWhile fun line => line ≠ "."

/-- What is left of the input behind its text: the lines behind the dot, or nothing. A line that
cannot be decoded breaks the text off as if the input ended there, but leaves the lines behind it.
-/
inductive Leaves (input : Input) : Input → Prop
  | behindDot {pending} (lines : input.pending = input.text.map some ++ some "." :: pending)
    : Leaves input ⟨pending⟩
  | empty (lines : input.pending = input.text.map some) : Leaves input ⟨[]⟩
  | behindBreak {pending} (lines : input.pending = input.text.map some ++ none :: pending)
    : Leaves input ⟨pending⟩

variable {pending behind : List (Option String)} {text : List String}

----------------------------------------------------------------------------------------
-- Answers
----------------------------------------------------------------------------------------

/-- The next answer is none, or it is the first of the pending lines. -/
theorem next_eq_none_or (input : Input)
    : input.next.1 = none ∨ ∃ line rest, input.pending = some line :: rest := by
  rcases input with ⟨_ | ⟨_ | line, rest⟩⟩
  · exact Or.inl rfl
  · exact Or.inl rfl
  · exact Or.inr ⟨line, rest, rfl⟩

/-- The answers are the pending lines in order, and then there is none. -/
theorem answer_eq (input : Input) (count : Nat)
    : input.answer count = input.pending[count]?.join := by
  induction count generalizing input with
  | zero => rcases input with ⟨_ | ⟨line, pending⟩⟩ <;> rfl
  | succ count ih =>
      rw [answer, ih]
      rcases input with ⟨_ | ⟨line, pending⟩⟩ <;> rfl

/-- Where no line answers, none answers later, exactly if the pending lines end for good. -/
theorem answer_stays_none_iff (input : Input)
    : (∀ first second,
        first ≤ second → input.answer first = none → input.answer second = none)
      ↔ EndsForGood input.pending := by
  simp only [answer_eq, EndsForGood, List.pairwise_iff_getElem]
  constructor
  · intro stays first second firstBound secondBound before ended
    have later := stays first second (Nat.le_of_lt before)
    simp only [List.getElem?_eq_getElem firstBound, List.getElem?_eq_getElem secondBound,
      Option.join_some] at later
    exact later ended
  · intro ends first second order ended
    by_cases secondBound : second < input.pending.length
    · have firstBound := Nat.lt_of_le_of_lt order secondBound
      simp only [List.getElem?_eq_getElem firstBound, Option.join_some] at ended
      simp only [List.getElem?_eq_getElem secondBound, Option.join_some]
      rcases Nat.eq_or_lt_of_le order with rfl | before
      · exact ended
      · exact ends first second firstBound secondBound before ended
    · rw [List.getElem?_eq_none (Nat.le_of_not_lt secondBound)]
      rfl

/-- The lines of bytes end for good if behind one that cannot be decoded there is none that can. -/
theorem endsForGood_ofBytes_iff (bytes : ByteArray)
    : EndsForGood (ofBytes bytes).pending
      ↔ (Text.rawLines bytes.toList).Pairwise fun first second =>
          Text.decode? first.bytes = none → Text.decode? second.bytes = none := by
  simp [EndsForGood, ofBytes, List.pairwise_map, Text.RawLine.typed?]

----------------------------------------------------------------------------------------
-- Text
----------------------------------------------------------------------------------------

/-- Taking text takes its lines and leaves the others. -/
theorem textLines_append (pending : List (Option String))
    : textLines pending ++ (textFrom pending).2 = pending := by
  fun_induction textLines pending with
  | case1 | case2 => rfl
  | case3 pending => simp [textFrom]
  | case4 line pending dot ih => simp [textFrom, dot, ih]

/-- The lines of a text end for good, because the text ends at the first one that cannot be
decoded.
-/
theorem endsForGood_textLines (pending : List (Option String))
    : EndsForGood (textLines pending) := by
  fun_induction textLines pending with
  | case1 => exact List.Pairwise.nil
  | case2 | case3 => exact List.pairwise_singleton _ _
  | case4 line pending _ ih => exact ih.cons fun _ _ => nofun

/-- Lines without a dot come into the text. -/
theorem textFrom_append (dotless : "." ∉ text) (pending : List (Option String))
    : textFrom (text.map some ++ pending)
      = (text ++ (textFrom pending).1, (textFrom pending).2) := by
  induction text with
  | nil => rfl
  | cons line text ih =>
      simp only [List.mem_cons, not_or] at dotless
      simp [textFrom, ih dotless.2, Ne.symm dotless.1]

/-- A text that is broken off is what is taken, and what stands behind it is left. -/
theorem BreaksOff.textFrom_eq (breaks : BreaksOff pending text behind)
    : textFrom pending = (text, behind) := by
  rw [breaks.lines, textFrom_append breaks.dotless, textFrom, List.append_nil]

/-- A line that cannot be decoded is among those of a text exactly if it breaks the text off. -/
theorem none_mem_textLines_iff
    : none ∈ textLines pending ↔ ∃ text behind, BreaksOff pending text behind := by
  constructor
  · intro member
    fun_induction textLines pending with
    | case1 => cases member
    | case2 pending => exact ⟨[], pending, List.not_mem_nil, rfl⟩
    | case3 => simp at member
    | case4 line pending dot ih =>
        obtain ⟨text, behind, dotless, lines⟩ := ih (by simpa using member)
        refine ⟨line :: text, behind, ?_, by rw [lines]; rfl⟩
        simp [dotless, Ne.symm dot]
  · rintro ⟨text, behind, dotless, rfl⟩
    induction text with
    | nil => exact List.mem_singleton_self none
    | cons line text ih =>
        simp only [List.mem_cons, not_or] at dotless
        simp [textLines, Ne.symm dotless.1, ih dotless.2]

theorem text_dot : Input.text ⟨some "." :: pending⟩ = [] := rfl

theorem text_cons {line : String} (other : line ≠ ".")
    : Input.text ⟨some line :: pending⟩ = line :: Input.text ⟨pending⟩ := by
  simp [Input.text, Input.lines, other]

/-- Taking text takes the text of the input, by induction on its lines. -/
theorem takeText_eq (input : Input) : input.takeText.1 = input.text := by
  obtain ⟨pending⟩ := input
  show (textFrom pending).1 = _
  fun_induction textFrom pending with
  | case1 | case2 => rfl
  | case3 pending => exact text_dot.symm
  | case4 line pending other text left taken ih => rw [text_cons other, ← ih, taken]

/-- A line in front that is no dot changes nothing of what is left. -/
theorem Leaves.cons {line : String} {left : Input} (other : line ≠ ".")
    (leaves : Leaves ⟨pending⟩ left)
    : Leaves ⟨some line :: pending⟩ left := by
  cases leaves with
  | behindDot lines =>
      exact .behindDot (by rw [text_cons other]; exact congrArg (some line :: ·) lines)
  | empty lines => exact .empty (by rw [text_cons other]; exact congrArg (some line :: ·) lines)
  | behindBreak lines =>
      exact .behindBreak (by rw [text_cons other]; exact congrArg (some line :: ·) lines)

/-- Taking text leaves what stands behind the text of the input. -/
theorem leaves_takeText (input : Input) : input.Leaves input.takeText.2 := by
  obtain ⟨pending⟩ := input
  show Leaves _ ⟨(textFrom pending).2⟩
  fun_induction textFrom pending with
  | case1 => exact .empty rfl
  | case2 pending => exact .behindBreak rfl
  | case3 pending => exact .behindDot rfl
  | case4 line pending other text left taken ih => exact .cons other (by rwa [taken] at ih)

end LineEditor.Input
