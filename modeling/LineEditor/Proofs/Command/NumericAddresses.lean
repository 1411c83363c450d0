import LineEditor.Proofs.Command.WrittenRanges

/-! Numbers in addresses, however many digits they have. A number above the limit, or one that leads
to an index above it, is refused as a bad range. Below the limit the index is exact, because nothing
that is computed on the way needs more room than a signed word of 64 bits has.
-/

namespace LineEditor

open AddressToken (EndsBefore indexOr writtenOr)

----------------------------------------------------------------------------------------
-- Reading in words
----------------------------------------------------------------------------------------

/-- A signed word of 64 bits has room for the value. -/
def InWord (value : Int) : Prop := -indexLimit - 1 ≤ value ∧ value ≤ indexLimit

instance decidableInWord (value : Int) : Decidable (InWord value) :=
  inferInstanceAs (Decidable (_ ∧ _))

/-- A value that was computed, or nothing where it would have wrapped around. -/
def word? (value : Int) : Option Int := if InWord value then some value else none

/-- The index at a distance from the current line. The sum is looked at before it is taken, and
refused where it has no word.
-/
def wordOffset (dot : Nat) (distance : Int) : Option (Except EditError Int) :=
  (word? dot).bind fun dot =>
    (word? distance).map fun distance =>
      if InWord (dot + distance) then .ok (dot + distance) else .error .badRange

/-- Reads an address that needs no memory with every value in a word. The reading comes to nothing
where a value would wrap around.
-/
def Buffer.wordAddress (buffer : Buffer) (slot : Slot) (text : List Char)
    : Option (Except EditError (Option Int × List Char)) :=
  match text with
  | '+' :: behind =>
      match readNumber behind with
      | .error error => some (.error error)
      | .ok (number, rest) =>
          (wordOffset buffer.dot (number.getD 1 : Nat)).map fun index =>
            index.map fun index => (some index, rest)
  | '-' :: behind =>
      match readNumber behind with
      | .error error => some (.error error)
      | .ok (number, rest) =>
          (wordOffset buffer.dot (-(number.getD 1 : Nat))).map fun index =>
            index.map fun index => (some index, rest)
  | [] => some (buffer.readPlainAddress slot [])
  | c :: behind =>
      if c.isDigit then
        match readNumber (c :: behind) with
        | .error error => some (.error error)
        | .ok (none, rest) => some (.ok (none, rest))
        | .ok (some number, rest) =>
            (word? ((number : Int) - 1)).map fun index => .ok (some index, rest)
      else some (buffer.readPlainAddress slot (c :: behind))

theorem word?_of_inWord {value : Int} (fits : InWord value) : word? value = some value :=
  if_pos fits

/-- A distance that has a word is added to the current line as if there were no words. -/
theorem wordOffset_eq {dot : Nat} {distance : Int} (counted : (dot : Int) ≤ indexLimit)
    (fits : InWord distance)
    : wordOffset dot distance = some (offsetIndex dot distance) := by
  have current : InWord dot := ⟨by unfold indexLimit; omega, counted⟩
  have least : -indexLimit - 1 ≤ dot + distance := by
    have := fits.1
    omega
  have greatest : InWord (dot + distance) ↔ (dot + distance : Int) ≤ indexLimit :=
    and_iff_right least
  simp only [wordOffset, word?_of_inWord current, word?_of_inWord fits, Option.bind_some,
    Option.map_some, greatest, offsetIndex]

/-- A number that is read is within the limit, and so is the distance of one line without one. -/
theorem readNumber_le {text rest : List Char} {number : Option Nat}
    (read : readNumber text = .ok (number, rest))
    : (number.getD 1 : Nat) ≤ indexLimit := by
  simp only [readNumber] at read
  split at read
  · cases read
    decide
  · split at read
    · next fits =>
        cases read
        exact fits
    · cases read

/-- Behind a sign the index is the same with words and without them. -/
theorem map_wordOffset {dot : Nat} (counted : (dot : Int) ≤ indexLimit) (sign : Nat → Int)
    (fits : ∀ distance : Nat, (distance : Int) ≤ indexLimit → InWord (sign distance))
    (text : List Char)
    : (match readNumber text with
        | .error error => some (.error error)
        | .ok (number, rest) =>
            (wordOffset dot (sign (number.getD 1))).map fun index =>
              index.map fun index => (some index, rest))
      = some (do
        let (number, rest) ← readNumber text
        return (some (← offsetIndex dot (sign (number.getD 1))), rest)) := by
  cases read : readNumber text with
  | error error => rfl
  | ok found =>
      obtain ⟨number, rest⟩ := found
      simp only [wordOffset_eq counted (fits _ (readNumber_le read)), Option.map_some, bind,
        Except.bind]
      cases offsetIndex dot (sign (number.getD 1)) <;> rfl

/-- An address is read in words as it is without them, because no value on the way is beyond one. -/
theorem Buffer.wordAddress_eq {buffer : Buffer} (counted : (buffer.dot : Int) ≤ indexLimit)
    (slot : Slot) (text : List Char)
    : buffer.wordAddress slot text = some (buffer.readPlainAddress slot text) := by
  unfold wordAddress
  split
  case h_1 behind =>
    refine map_wordOffset counted (fun distance => distance) ?_ behind
    exact fun distance within => ⟨by unfold indexLimit; omega, within⟩
  case h_2 behind =>
    refine map_wordOffset counted (fun distance => -distance) ?_ behind
    exact fun distance within => ⟨by omega, by unfold indexLimit; omega⟩
  case h_3 => rfl
  case h_4 c behind _ _ =>
    split
    next digit =>
      rw [readPlainAddress_of_isDigit buffer slot behind digit]
      cases read : readNumber (c :: behind) with
      | error error => rfl
      | ok found =>
          obtain ⟨_ | number, rest⟩ := found
          · rfl
          · have fits : InWord ((number : Int) - 1) := by
              have : (number : Int) ≤ indexLimit := readNumber_le read
              exact ⟨by unfold indexLimit; omega, by omega⟩
            simp only [word?_of_inWord fits]
            rfl
    next => rfl

----------------------------------------------------------------------------------------
-- Numbers above the limit
----------------------------------------------------------------------------------------

namespace AddressToken

variable {buffer : Buffer}

instance decidableFits : (token : AddressToken) → Decidable (token.Fits buffer)
  | first | last | current => inferInstanceAs (Decidable True)
  | number _ _ | forward _ => inferInstanceAs (Decidable (_ ≤ indexLimit))
  | backward _ => inferInstanceAs (Decidable (_ ∧ _))

/-- The address stands for no line of the buffer. -/
def Outside (buffer : Buffer) (token : AddressToken) : Prop :=
  token.index buffer < 0 ∨ (buffer.size : Int) ≤ token.index buffer

end AddressToken

variable {digits : Digits} {text : List Char}

/-- Digits that spell a number above the limit are refused. -/
theorem readNumber_of_greater (ends : ∀ c ∈ text.head?, c.isDigit = false)
    (greater : indexLimit < digits.distance)
    : readNumber (digits.chars ++ text) = .error .badRange := by
  have some : digits.chars ≠ [] := by
    intro none
    rw [Digits.distance, if_pos none] at greater
    revert greater
    decide
  rw [Digits.distance, if_neg some] at greater
  simp only [readNumber, span_digits digits ends, Pattern.decimalValue_eq, List.isEmpty_iff, some,
    if_false, Int.not_le.mpr greater]

/-- Behind a sign, a number or an index above the limit is refused. -/
theorem readNumber_bind_offsetIndex (dot : Nat) (sign : Nat → Int)
    (ends : ∀ c ∈ text.head?, c.isDigit = false)
    (greater : indexLimit < digits.distance ∨ indexLimit < dot + sign digits.distance)
    : (do
        let (number, rest) ← readNumber (digits.chars ++ text)
        return (some (← offsetIndex dot (sign (number.getD 1))), rest))
      = (.error .badRange : Except EditError (Option Int × List Char)) := by
  by_cases number : (digits.distance : Int) ≤ indexLimit
  · obtain ⟨found, read, distance⟩ := readNumber_distance ends number
    have index : indexLimit < dot + sign (found.getD 1) := by
      rw [distance]
      exact greater.resolve_left (Int.not_lt.mpr number)
    simp only [read, offsetIndex, Int.not_le.mpr index, if_false, bind, Except.bind]
  · rw [readNumber_of_greater ends (Int.not_le.mp number)]
    rfl

namespace Context

variable {context : Context} {slot : Slot} {token : AddressToken}

/-- An address that does not fit is refused, in either place of a range. -/
theorem readAddress_of_not_fits (slot : Slot) (great : ¬ token.Fits context.buffer)
    (ends : ∀ c ∈ text.head?, c.isDigit = false)
    : context.readAddress slot (token.written ++ text) = (.error .badRange, context.memory) := by
  cases token with
  | first | last | current => exact absurd trivial great
  | number digits some =>
      have greater : indexLimit < digits.distance := by
        rw [Digits.distance, if_neg some]
        exact Int.not_le.mp great
      have read := readNumber_of_greater ends greater
      obtain ⟨chars, isDigit⟩ := digits
      cases chars with
      | nil => exact absurd rfl some
      | cons c chars =>
          have first := context.readAddress_of_isDigit slot (chars ++ text)
            (isDigit c List.mem_cons_self)
          rw [List.cons_append] at read
          rw [read] at first
          exact first
  | forward digits =>
      have read := readNumber_bind_offsetIndex context.buffer.dot (fun distance => distance) ends
        (.inr (Int.not_le.mp great))
      exact congrArg (·, context.memory) read
  | backward digits =>
      have greater := (Decidable.not_and_iff_or_not.mp great).imp Int.not_le.mp Int.not_le.mp
      have read := readNumber_bind_offsetIndex context.buffer.dot (fun distance => -distance) ends
        greater
      exact congrArg (·, context.memory) read

/-- An address is read as what it stands for if it fits, and refused if it does not. -/
theorem readAddress_token (context : Context) (slot : Slot) (token : AddressToken)
    (ends : ∀ c ∈ text.head?, c.isDigit = false)
    : context.readAddress slot (token.written ++ text)
      = (if token.Fits context.buffer then .ok (some (token.index context.buffer), text)
          else .error .badRange,
        context.memory) := by
  split
  next fits => exact readAddress_written fits ends
  next great => exact readAddress_of_not_fits slot great ends

end Context

----------------------------------------------------------------------------------------
-- Ranges outside the buffer
----------------------------------------------------------------------------------------

/-- A range as it is written: one address, or a comma between two of which each may be missing. -/
inductive WrittenRange where
  | one (address : AddressToken)
  | two (first last : Option AddressToken)

namespace WrittenRange

/-- How the range is written. -/
def written : WrittenRange → List Char
  | one address => address.written
  | two first last => writtenOr first ++ ',' :: writtenOr last

/-- The addresses that are written. -/
def tokens : WrittenRange → List AddressToken
  | one address => [address]
  | two first last => first.toList ++ last.toList

/-- The range ends where the text goes on: it may not go on with what would belong to the range. -/
def Ends (text : List Char) : WrittenRange → Prop
  | one address => EndsBefore (some address) text ∧ text.head? ≠ some ','
  | two _ last => EndsBefore last text

/-- What the range is read as in front of a text if all its addresses fit. -/
def addresses (buffer : Buffer) (text : List Char) : WrittenRange → Addresses
  | one address => ⟨address.index buffer, address.index buffer, true, text⟩
  | two first last => ⟨indexOr buffer 0 first, indexOr buffer (buffer.size - 1) last, true, text⟩

/-- A range of written addresses is never that of a global command without an address. -/
theorem not_chooseAll_addresses (buffer : Buffer) (text : List Char) (range : WrittenRange)
    : ¬ (range.addresses buffer text).ChooseAll := by
  cases range <;> exact nofun

end WrittenRange

/-- The check refuses ends of which one is no line of a buffer that has lines. -/
theorem Buffer.checkRange_of_outside {buffer : Buffer} {first last : Int}
    (filled : 0 < buffer.size)
    (outside : (first < 0 ∨ buffer.size ≤ first) ∨ (last < 0 ∨ buffer.size ≤ last))
    : buffer.checkRange first last = .error .badRange := by
  refine if_pos ?_
  simp only [Bool.or_eq_true, decide_eq_true_eq]
  unfold lastIndex
  omega

namespace Context

variable {context : Context} {range : WrittenRange}

/-- Two addresses with a comma between them are refused if one of them does not fit: the first one
before the comma is taken, and otherwise the second one.
-/
theorem readRange_two_of_not_fits {first last : Option AddressToken} (ends : EndsBefore last text)
    (great : ¬ ∀ token, token ∈ first ∨ token ∈ last → token.Fits context.buffer)
    : context.readRange (writtenOr first ++ ',' :: (writtenOr last ++ text))
      = (.error .badRange, context.memory) := by
  by_cases firstFits : ∀ token ∈ first, token.Fits context.buffer
  · obtain ⟨index, front, _⟩ := readAddress_first firstFits (writtenOr last ++ text)
    obtain ⟨token, member, greater⟩ : ∃ token ∈ last, ¬ token.Fits context.buffer := by
      by_contra all
      push Not at all
      exact great fun token => (Or.elim · (firstFits token) (all token))
    obtain rfl : last = some token := member
    have second (start : Int)
        : (context.withMemory context.memory).readAddress (.second start)
            (writtenOr (some token) ++ text)
          = (.error .badRange, context.memory) :=
      readAddress_of_not_fits _ greater fun c head => (ends c head).1
    simp only [readRange, front, readSecond, second]
  · push Not at firstFits
    obtain ⟨token, member, greater⟩ := firstFits
    obtain rfl : first = some token := member
    have comma : ∀ c ∈ (',' :: (writtenOr last ++ text)).head?, c.isDigit = false := by
      rintro c ⟨rfl⟩
      rfl
    have front
        : context.readAddress .first (writtenOr (some token) ++ ',' :: (writtenOr last ++ text))
          = (.error .badRange, context.memory) :=
      readAddress_of_not_fits .first greater comma
    simp only [readRange, front]

/-- A range is read as what its addresses stand for if all of them fit, and refused otherwise. -/
theorem readRange_written (context : Context) (ends : range.Ends text)
    : context.readRange (range.written ++ text)
      = (if ∀ token ∈ range.tokens, token.Fits context.buffer then
          .ok (range.addresses context.buffer text)
          else .error .badRange,
        context.memory) := by
  cases range with
  | one address =>
      obtain ⟨ends, alone⟩ := ends
      have front := readAddress_token context .first address fun c first => (ends c first).1
      split
      next fits =>
        have onlyFits : ∀ token ∈ some address, token.Fits context.buffer := by
          rintro token ⟨rfl⟩
          exact fits address List.mem_cons_self
        exact readRange_one onlyFits ends alone
      next great =>
        rw [if_neg (by simpa [WrittenRange.tokens] using great)] at front
        simp only [WrittenRange.written, readRange, front]
  | two first last =>
      rw [WrittenRange.written, List.append_assoc, List.cons_append]
      split
      next fits =>
        simp only [WrittenRange.tokens, List.mem_append, Option.mem_toList] at fits
        exact readRange_two (fun token member => fits token (.inl member))
          (fun token member => fits token (.inr member)) ends
      next great =>
        exact readRange_two_of_not_fits ends (by simpa [WrittenRange.tokens] using great)

/-- A command line is refused if an address of its range stands for no line of a buffer that has
lines, whether the address does not fit or the check finds its index outside.
-/
theorem readCommand_of_outside {line : String} (filled : 0 < context.buffer.size)
    (starts : line.toList = range.written ++ text) (ends : range.Ends text)
    (outside : ∃ token ∈ range.tokens, token.Outside context.buffer)
    : context.readCommand line = (.error .badRange, context.memory) := by
  have front := context.readRange_written ends
  rw [← starts] at front
  split at front
  next fits =>
    have refused
        : context.commandRange (range.addresses context.buffer text) = .error .badRange := by
      rw [commandRange_of_not_chooseAll (range.not_chooseAll_addresses _ _)]
      refine Buffer.checkRange_of_outside filled ?_
      obtain ⟨token, member, outside⟩ := outside
      cases range with
      | one address =>
          obtain rfl := List.mem_singleton.mp member
          exact .inl outside
      | two first last =>
          simp only [WrittenRange.tokens, List.mem_append, Option.mem_toList] at member
          rcases member with rfl | rfl
          · exact .inl outside
          · exact .inr outside
    simp only [readCommand, front, refused]
  next => simp only [readCommand, front]

end Context

end LineEditor
