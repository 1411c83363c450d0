import LineEditor.Proofs.Command.NumericAddresses
import LineEditor.Proofs.Session.FailedLines

/-! Command lines with addresses outside the buffer. Whatever number such an address is written with,
the line is refused: as a bad range where the address belongs to the range, or does not fit, and
as a bad target where it is the destination of a move.
-/

namespace LineEditor

/-- A move to a place that is neither a line nor in front of all lines is refused. -/
theorem Buffer.moveLines_of_outside {buffer : Buffer} {destination : Int} (range : LineRange)
    (filled : 0 < buffer.size) (outside : destination < -1 ∨ buffer.size ≤ destination)
    : buffer.moveLines range destination = buffer.refuse .badMoveTarget := by
  have some : ¬ buffer.isEmpty = true := by
    rw [isEmpty_eq_true_iff]
    omega
  unfold moveLines
  rw [if_neg some, if_pos]
  simp only [Bool.or_eq_true, decide_eq_true_eq]
  unfold lastIndex
  omega

/-- The destination of a move is refused if it does not fit, and taken as its index otherwise. -/
theorem Context.readOperation_move (context : Context) (destination : AddressToken)
    {text : List Char} (ends : ∀ c ∈ text.head?, c.isDigit = false)
    : context.readOperation ('m' :: (destination.written ++ text))
      = (if destination.Fits context.buffer then
          .ok (.move (destination.index context.buffer), text)
          else .error .badRange,
        context.memory) := by
  have read := context.readAddress_token .first destination ends
  rw [readOperation_of_simple (by decide)]
  show context.readMove (destination.written ++ text) = _
  split at read
  next fits => simp only [readMove, read, fits, if_true]
  next great => simp only [readMove, read, great, if_false]

namespace Session

variable {session : Session} {line : String} {text : List Char}

/-- A line whose range has an address outside the buffer is refused, and nothing is remembered. -/
theorem runLine_of_outside {range : WrittenRange} (filled : 0 < session.context.buffer.size)
    (starts : line.toList = range.written ++ text) (ends : range.Ends text)
    (outside : ∃ token ∈ range.tokens, token.Outside session.context.buffer)
    : session.runLine line = (.goOn, session.report .badRange) := by
  have unread := Context.readCommand_of_outside filled starts ends outside
  rw [runLine_of_unread unread, afterReading, unread]
  rfl

/-- A move with a valid range is refused if its destination is neither a line nor the place in front
of all lines. Only what the range had to remember is remembered.
-/
theorem runLine_of_outside_destination {addresses : Addresses} {memory : Memory}
    {range : LineRange} {destination : AddressToken} (filled : 0 < session.context.buffer.size)
    (front : session.context.readRange line.toList = (.ok addresses, memory))
    (chooses : session.context.buffer.Chooses addresses range)
    (move : addresses.rest = 'm' :: (destination.written ++ text))
    (ends : ∀ c ∈ text.head?, c.isDigit = false)
    (outside : destination.Outside session.context.buffer)
    (other : destination.index session.context.buffer ≠ -1)
    : session.runLine line
      = (.goOn,
        { session with context := session.context.withMemory memory }.report
          (if destination.Fits session.context.buffer then .badMoveTarget else .badRange)) := by
  have found := Context.commandRange_eq_ok_iff.mpr chooses
  have read := Context.readCommand_of_commandRange rfl front found
  have back
      : (session.context.withMemory memory).readOperation addresses.rest
        = (if destination.Fits session.context.buffer then
            .ok (.move (destination.index session.context.buffer), text)
            else .error .badRange,
          memory) := by
    rw [move]
    exact Context.readOperation_move _ destination ends
  rw [back] at read
  by_cases fits : destination.Fits session.context.buffer
  · have target
        : destination.index session.context.buffer < -1
          ∨ session.context.buffer.size ≤ destination.index session.context.buffer := by
      unfold AddressToken.Outside at outside
      omega
    have admitted
        : session.context.readCommand line
          = (.ok ⟨range, .move (destination.index session.context.buffer)⟩, memory) := by
      rw [read, if_pos fits]
      rfl
    have failed : session.failure? line = some .badMoveTarget := by
      simp only [failure?, admitted, Command.plan, Plan.run,
        Buffer.moveLines_of_outside range filled target]
      rfl
    rw [runLine_of_failure failed, afterReading, admitted, if_pos fits]
  · have refused : session.context.readCommand line = (.error .badRange, memory) := by
      rw [read, if_neg fits]
      rfl
    rw [runLine_of_unread refused, afterReading, refused, if_neg fits]

/-- Numbers in addresses are exact however many digits they have. A number stands for the line with
that number, and for a distance behind a sign, as long as neither the number nor the index that it
comes to is above the limit; otherwise it is refused. Nothing that is computed on the way wraps
around in a signed word of 64 bits. So a command line is refused whose range has an address outside
the buffer, and so is a move whose destination is neither a line nor the place in front of all
lines; both leave everything but the memory of the range and the report as it was.
-/
theorem numbers_in_addresses_exact (session : Session)
    (counted : (session.context.buffer.dot : Int) ≤ indexLimit)
    : (∀ (slot : Slot) (digits : Digits) (text : List Char),
        digits.chars ≠ []
        → (∀ c ∈ text.head?, c.isDigit = false)
        → session.context.readAddress slot (digits.chars ++ text)
            = (if (digits.value : Int) ≤ indexLimit then
                .ok (some (digits.value - 1 : Int), text)
                else .error .badRange,
              session.context.memory)
          ∧ session.context.readAddress slot ('+' :: (digits.chars ++ text))
            = (if (digits.value : Int) ≤ indexLimit
                ∧ (session.context.buffer.dot + digits.value : Int) ≤ indexLimit then
                .ok (some (session.context.buffer.dot + digits.value : Int), text)
                else .error .badRange,
              session.context.memory)
          ∧ session.context.readAddress slot ('-' :: (digits.chars ++ text))
            = (if (digits.value : Int) ≤ indexLimit then
                .ok (some (session.context.buffer.dot - digits.value : Int), text)
                else .error .badRange,
              session.context.memory))
      ∧ (∀ slot text,
        session.context.buffer.wordAddress slot text
          = some (session.context.buffer.readPlainAddress slot text))
      ∧ (0 < session.context.buffer.size
        → (∀ (line : String) (range : WrittenRange) text,
            line.toList = range.written ++ text
            → range.Ends text
            → (∃ token ∈ range.tokens, token.Outside session.context.buffer)
            → session.runLine line = (.goOn, session.report .badRange))
          ∧ ∀ (line : String) addresses memory range (destination : AddressToken) text,
            session.context.readRange line.toList = (.ok addresses, memory)
            → session.context.buffer.Chooses addresses range
            → addresses.rest = 'm' :: (destination.written ++ text)
            → (∀ c ∈ text.head?, c.isDigit = false)
            → destination.Outside session.context.buffer
            → destination.index session.context.buffer ≠ -1
            → session.runLine line
              = (.goOn,
                { session with context := session.context.withMemory memory }.report
                  (if destination.Fits session.context.buffer then .badMoveTarget
                    else .badRange))) := by
  refine ⟨?_, Buffer.wordAddress_eq counted, ?_⟩
  · intro slot digits text some ends
    have distance : digits.distance = digits.value := if_neg some
    have number := session.context.readAddress_token slot (.number digits some) ends
    have forward := session.context.readAddress_token slot (.forward digits) ends
    have backward := session.context.readAddress_token slot (.backward digits) ends
    have sum
        : ((digits.value : Int) ≤ indexLimit
            ∧ (session.context.buffer.dot + digits.value : Int) ≤ indexLimit)
          ↔ (session.context.buffer.dot + digits.value : Int) ≤ indexLimit :=
      and_iff_right_of_imp (by omega)
    have difference
        : ((digits.value : Int) ≤ indexLimit
            ∧ (session.context.buffer.dot - digits.value : Int) ≤ indexLimit)
          ↔ (digits.value : Int) ≤ indexLimit :=
      and_iff_left_of_imp (by omega)
    simp only [AddressToken.Fits, AddressToken.index, distance, difference] at number forward backward
    simp only [sum]
    exact ⟨number, forward, backward⟩
  · intro filled
    refine ⟨?_, ?_⟩
    · intro line range text starts ends outside
      exact runLine_of_outside filled starts ends outside
    · intro line addresses memory range destination text front chooses move ends outside other
      exact runLine_of_outside_destination filled front chooses move ends outside other

/-- The greatest distance from the second line that an index has room for, and the one behind it; then
a range that ends far in front of the buffer, and a move to the line behind the last one.
-/
theorem numbers_in_addresses_exact_outside
    : ∃ session : Session,
        (session.context.buffer.dot : Int) ≤ indexLimit
        ∧ session.context.readAddress .first "+009223372036854775806n".toList
          = (.ok (some indexLimit, ['n']), session.context.memory)
        ∧ session.context.readAddress .first "+9223372036854775807n".toList
          = (.error .badRange, session.context.memory)
        ∧ session.runLine "1,-18446744073709551617p" = (.goOn, session.report .badRange)
        ∧ session.runLine "1m4" = (.goOn, session.report .badMoveTarget) := by
  let session : Session := {
    context := { buffer := { lines := ["a", "b", "c"], dot := 1 } }
    world := ⟨⟨[]⟩, {}⟩
  }
  have counted : (session.context.buffer.dot : Int) ≤ indexLimit := by decide
  obtain ⟨reads, _, refused⟩ := numbers_in_addresses_exact session counted
  obtain ⟨ranges, moves⟩ := refused (by decide)
  have ends : ∀ c ∈ ['n'].head?, c.isDigit = false := by simp
  refine ⟨session, counted, ?_, ?_, ?_, ?_⟩
  · let digits : Digits := ⟨"009223372036854775806".toList, by simp⟩
    have value : digits.value = 9223372036854775806 := by decide +kernel
    have sum
        : (session.context.buffer.dot + (9223372036854775806 : Nat) : Int) = indexLimit := by
      decide
    have read := (reads .first digits ['n'] (by decide) ends).2.1
    rw [value, sum, if_pos (by decide)] at read
    exact read
  · let digits : Digits := ⟨"9223372036854775807".toList, by simp⟩
    have value : digits.value = 9223372036854775807 := by decide +kernel
    have read := (reads .first digits ['n'] (by decide) ends).2.1
    rw [value, if_neg (by decide)] at read
    exact read
  · let far : AddressToken := .backward ⟨"18446744073709551617".toList, by simp⟩
    let one : AddressToken := .number ⟨['1'], by simp⟩ (by decide)
    refine ranges "1,-18446744073709551617p" (.two (some one) (some far)) ['p'] rfl
      (.of_not_startsAddress rfl) ⟨far, by simp [WrittenRange.tokens], .inl ?_⟩
    decide
  · let four : AddressToken := .number ⟨['4'], by simp⟩ (by decide)
    have front
        : session.context.readRange "1m4".toList
          = (.ok ⟨0, 0, true, ['m', '4']⟩, session.context.memory) := by
      rfl
    have single : ¬ Addresses.ChooseAll ⟨0, 0, true, ['m', '4']⟩ := by simp [Addresses.ChooseAll]
    exact moves "1m4" _ _ ⟨0, 0⟩ four [] front (.ends single rfl rfl ⟨by decide, by decide⟩) rfl
      (by simp) (.inr (by decide)) (by decide)

end Session

end LineEditor
