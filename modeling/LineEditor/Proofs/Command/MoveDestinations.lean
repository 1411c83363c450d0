import Mathlib.Data.List.TakeWhile
import LineEditor.Proofs.Command.WrittenRanges

/-! Destinations of moves. An address that is read is taken off the front of its text, but for a comma
in the first place, which stands for the first line and is left to the range. No range follows the
letter of a move, so that a move with a comma behind it goes there without a destination.
-/

namespace LineEditor

open Text (Field)

/-- How addresses are written: a pattern between two marks, or an address that needs no search. -/
inductive IsAddress : List Char → Prop
  | search {mark : Char} {body : List Char} (search : mark = '/' ∨ mark = '?')
    (holds : Field.Holds mark body)
    : IsAddress (mark :: (body ++ [mark]))
  | token (token : AddressToken) : IsAddress token.written

/-- A character that a written address can start with; a comma is none. -/
def startsToken (c : Char) : Bool := startsAddress c && c != ','

theorem IsAddress.ne_nil {written : List Char} (address : IsAddress written) : written ≠ [] := by
  cases address with
  | search => exact List.cons_ne_nil _ _
  | token token =>
      cases token with
      | number _ some => exact some
      | first | last | current | forward | backward => exact List.cons_ne_nil _ _

/-- A number is read from the digits in front of what is left. -/
theorem exists_digits_of_readNumber {text rest : List Char} {number : Option Nat}
    (read : readNumber text = .ok (number, rest))
    : ∃ digits : Digits,
        text = digits.chars ++ rest ∧ (digits.chars = [] ↔ number = none) := by
  simp only [readNumber, List.span_eq_takeWhile_dropWhile, List.isEmpty_iff] at read
  have parts := (text.takeWhile_append_dropWhile (p := Char.isDigit)).symm
  let digits : Digits := ⟨text.takeWhile Char.isDigit, fun _ => List.mem_takeWhile_imp⟩
  split at read
  next none =>
    cases read
    exact ⟨digits, parts, iff_of_true none rfl⟩
  next some =>
    split at read
    next =>
      cases read
      exact ⟨digits, parts, iff_of_false some (Option.some_ne_none _)⟩
    next => cases read

namespace Context

variable {context : Context} {slot : Slot} {text rest : List Char} {index : Int} {memory : Memory}

/-- A search that is read is taken off with both of its marks. -/
theorem exists_written_of_readSearch {address : Option Int} {mark : Char}
    (search : mark = '/' ∨ mark = '?')
    (read : context.readSearch slot mark text = (.ok (address, rest), memory))
    : ∃ written, IsAddress written ∧ mark :: text = written ++ rest := by
  have simple : mark ≠ '\\' := by
    rcases search with rfl | rfl <;> decide
  unfold readSearch at read
  dsimp only at read
  split at read
  next => cases read
  next closed =>
    obtain ⟨parts, holds⟩ := Field.eq_append_of_closed simple (by simpa using closed)
    have written : mark :: text
        = (mark :: ((Field.cut mark text).body ++ [mark])) ++ (Field.cut mark text).rest := by
      simpa using parts
    split at read
    · cases read
    · split at read
      · cases read
        exact ⟨_, .search search holds, written⟩
      · cases read

/-- An address without a search is taken off, unless a comma stands for it. -/
theorem exists_written_of_readPlainAddress {buffer : Buffer}
    (read : buffer.readPlainAddress slot text = .ok (some index, rest))
    (other : text.head? ≠ some ',')
    : ∃ written, IsAddress written ∧ text = written ++ rest := by
  unfold Buffer.readPlainAddress at read
  split at read
  · cases read
  · next c behind =>
    split at read
    case h_1 =>
      cases read
      exact ⟨_, .token .first, rfl⟩
    case h_2 =>
      cases read
      exact ⟨_, .token .last, rfl⟩
    case h_3 =>
      cases read
      exact ⟨_, .token .current, rfl⟩
    case h_4 => exact absurd rfl other
    case h_5 =>
      obtain ⟨⟨number, left⟩, taken, read⟩ := bind_eq_ok_iff.mp read
      obtain ⟨index, _, read⟩ := bind_eq_ok_iff.mp read
      cases read
      obtain ⟨digits, rfl, _⟩ := exists_digits_of_readNumber taken
      exact ⟨_, .token (.forward digits), rfl⟩
    case h_6 =>
      obtain ⟨⟨number, left⟩, taken, read⟩ := bind_eq_ok_iff.mp read
      obtain ⟨index, _, read⟩ := bind_eq_ok_iff.mp read
      cases read
      obtain ⟨digits, rfl, _⟩ := exists_digits_of_readNumber taken
      exact ⟨_, .token (.backward digits), rfl⟩
    case h_7 =>
      split at read
      · obtain ⟨⟨number, left⟩, taken, read⟩ := bind_eq_ok_iff.mp read
        obtain ⟨digits, parts, none⟩ := exists_digits_of_readNumber taken
        cases number with
        | none => cases read
        | some number =>
            cases read
            exact ⟨_, .token (.number digits (mt none.mp (Option.some_ne_none _))), parts⟩
      · cases read

/-- An address that is read is taken off the front of the text, unless a comma stands for it. -/
theorem exists_written_of_readAddress
    (read : context.readAddress slot text = (.ok (some index, rest), memory))
    (other : text.head? ≠ some ',')
    : ∃ written, IsAddress written ∧ text = written ++ rest := by
  unfold readAddress at read
  split at read
  case h_1 => exact exists_written_of_readSearch (.inl rfl) read
  case h_2 => exact exists_written_of_readSearch (.inr rfl) read
  case h_3 => exact exists_written_of_readPlainAddress (congrArg Prod.fst read) other

----------------------------------------------------------------------------------------
-- Destinations
----------------------------------------------------------------------------------------

variable {arguments : List Char}

theorem readOperation_m (context : Context) (arguments : List Char)
    : context.readOperation ('m' :: arguments) = context.readMove arguments := by
  rw [readOperation_of_simple (by decide)]
  rfl

/-- A comma is taken for the first line and left. -/
theorem readMove_of_comma (context : Context) (text : List Char)
    : context.readMove (',' :: text) = (.ok (.move 0, ',' :: text), context.memory) :=
  rfl

/-- Where no address starts and no comma stands, a move has no destination. -/
theorem readMove_of_not_startsToken (none : ∀ c ∈ arguments.head?, startsToken c = false)
    (other : arguments.head? ≠ some ',')
    : context.readMove arguments = (.error .badMoveTarget, context.memory) := by
  cases arguments with
  | nil => rfl
  | cons c text =>
      have comma : c ≠ ',' := fun same => other (congrArg some same)
      have start : startsAddress c = false := by simpa [startsToken, comma] using none c rfl
      simp only [readMove, readAddress_of_not_startsAddress .first start]

/-- The destination of a move that is read is that of the address in front of its arguments. -/
theorem readAddress_of_readMove {operation : Operation}
    (read : context.readMove arguments = (.ok (operation, rest), memory))
    : ∃ destination,
        operation = .move destination
        ∧ context.readAddress .first arguments = (.ok (some destination, rest), memory) := by
  unfold readMove at read
  split at read
  · cases read
  · cases read
  · next found =>
      cases read
      exact ⟨_, rfl, found⟩

/-- A move that is read has taken an address off its arguments, and so left less of them, exactly if
they do not start with a comma. Where they start with nothing that an address starts with, the move
is refused for its destination and nothing is remembered, exactly if they do not start with a comma.
With a comma it goes behind the first line and takes nothing off.
-/
theorem move_takes_destination (context : Context) (arguments : List Char)
    : (∀ operation rest memory,
        context.readOperation ('m' :: arguments) = (.ok (operation, rest), memory)
        → (∃ destination, operation = .move destination)
          ∧ ((∃ written, IsAddress written ∧ arguments = written ++ rest)
            ↔ arguments.head? ≠ some ',')
          ∧ (rest <:+ arguments ∧ rest.length < arguments.length ↔ arguments.head? ≠ some ','))
      ∧ ((∀ c ∈ arguments.head?, startsToken c = false)
        → (context.readOperation ('m' :: arguments) = (.error .badMoveTarget, context.memory)
          ↔ arguments.head? ≠ some ','))
      ∧ (arguments.head? = some ','
        → context.readOperation ('m' :: arguments)
          = (.ok (.move 0, arguments), context.memory)) := by
  rw [readOperation_m]
  have comma (starts : arguments.head? = some ',')
      : context.readMove arguments = (.ok (.move 0, arguments), context.memory) := by
    obtain ⟨text, rfl⟩ := List.head?_eq_some_iff.mp starts
    exact context.readMove_of_comma text
  refine ⟨?_, ?_, comma⟩
  · intro operation rest memory read
    obtain ⟨destination, rfl, found⟩ := readAddress_of_readMove read
    refine ⟨⟨destination, rfl⟩, ?_⟩
    by_cases starts : arguments.head? = some ','
    · rw [comma starts] at read
      cases read
      refine ⟨iff_of_false ?_ (absurd starts), iff_of_false ?_ (absurd starts)⟩
      · rintro ⟨written, address, parts⟩
        exact address.ne_nil (List.append_left_eq_self.mp parts.symm)
      · rintro ⟨_, shorter⟩
        exact Nat.lt_irrefl _ shorter
    · obtain ⟨written, address, rfl⟩ := exists_written_of_readAddress found starts
      have some := List.length_pos_iff.mpr address.ne_nil
      refine ⟨iff_of_true ⟨written, address, rfl⟩ starts, iff_of_true ⟨?_, ?_⟩ starts⟩
      · exact List.suffix_append written rest
      · rw [List.length_append]
        omega
  · intro none
    constructor
    · intro refused starts
      rw [comma starts] at refused
      cases refused
    · exact readMove_of_not_startsToken none

/-- A move behind the line that is found; with a comma in front of its address it goes to the first. -/
theorem move_takes_destination_found
    : ∃ context : Context,
        (∃ memory,
          context.readOperation "m/c/p".toList = (.ok (.move 2, ['p']), memory)
          ∧ ['p'] <:+ "/c/p".toList)
        ∧ context.readOperation "mp".toList = (.error .badMoveTarget, context.memory)
        ∧ context.readOperation "m,3".toList = (.ok (.move 0, ",3".toList), context.memory) := by
  let context : Context := { buffer := { lines := ["a", "b", "c"], dot := 0 } }
  obtain ⟨found, _, _⟩ := move_takes_destination context "/c/p".toList
  have read
      : context.readOperation "m/c/p".toList
        = (.ok (.move 2, ['p']), (context.readOperation "m/c/p".toList).2) := by
    decide +kernel
  have suffix := ((found _ _ _ read).2.2.mpr (by decide)).1
  refine ⟨context, ⟨_, read, suffix⟩, ?_, ?_⟩
  · have other : ∀ c ∈ ['p'].head?, startsToken c = false := by
      rintro _ ⟨⟩
      decide
    exact ((move_takes_destination context ['p']).2.1 other).mpr (by decide)
  · exact (move_takes_destination context ",3".toList).2.2 rfl

/-- Not every move that is read has a destination: one with a lone comma behind its letter takes nothing
off its arguments, and is not refused.
-/
theorem move_to_comma_takes_nothing
    : ¬ ∀ (context : Context) (arguments : List Char),
        (∀ destination rest memory,
          context.readOperation ('m' :: arguments) = (.ok (.move destination, rest), memory)
          → rest <:+ arguments ∧ rest.length < arguments.length)
        ∧ ((∀ c ∈ arguments.head?, startsToken c = false)
          → context.readOperation ('m' :: arguments) = (.error .badMoveTarget, context.memory)) := by
  intro all
  obtain ⟨shorter, _⟩ := all {} [',']
  have read : ({} : Context).readOperation "m,".toList = (.ok (.move 0, [',']), {}) := by
    decide +kernel
  exact Nat.lt_irrefl _ (shorter _ _ _ read).2

end Context

end LineEditor
