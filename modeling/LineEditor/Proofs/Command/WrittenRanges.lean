import Mathlib.Data.List.Induction
import Mathlib.Data.List.TakeDrop
import Mathlib.Data.Nat.Digits.Defs
import LineEditor.Proofs.Command.UnaddressedLines
import LineEditor.Proofs.Text.Fields

/-! Ranges as they are written. The addresses that need no search have a grammar, and each of them
stands for an index whatever is written beside it; a range in front of a command is read as what
its addresses stand for, and the text behind it is left.
-/

namespace LineEditor

open Text (Field)

----------------------------------------------------------------------------------------
-- The grammar of addresses
----------------------------------------------------------------------------------------

/-- Decimal digits, the first of which may be zeros. -/
structure Digits where
  chars : List Char
  digits : ∀ c ∈ chars, c.isDigit = true

/-- The number that the digits spell, the last one in the place of the units. -/
def Digits.value (digits : Digits) : Nat :=
  Nat.ofDigits 10 (digits.chars.reverse.map fun c => c.toNat - '0'.toNat)

/-- The distance that digits behind a sign stand for; without digits it is one line. -/
def Digits.distance (digits : Digits) : Nat :=
  if digits.chars = [] then 1 else digits.value

/-- An address that needs no search: the first, the last or the current line, a line number, or a
distance from the current line.
-/
inductive AddressToken where
  | first
  | last
  | current
  | number (digits : Digits) (some : digits.chars ≠ [])
  | forward (digits : Digits)
  | backward (digits : Digits)

namespace AddressToken

/-- How the address is written. -/
def written : AddressToken → List Char
  | first => ['^']
  | last => ['$']
  | current => ['.']
  | number digits _ => digits.chars
  | forward digits => '+' :: digits.chars
  | backward digits => '-' :: digits.chars

/-- The index that the address stands for, which may lie outside the buffer. -/
def index (buffer : Buffer) : AddressToken → Int
  | first => 0
  | last => buffer.size - 1
  | current => buffer.dot
  | number digits _ => digits.value - 1
  | forward digits => buffer.dot + digits.distance
  | backward digits => buffer.dot - digits.distance

/-- No number of the address is above the limit, and neither is the index it comes to. -/
def Fits (buffer : Buffer) : AddressToken → Prop
  | first | last | current => True
  | number digits _ => (digits.value : Int) ≤ indexLimit
  | forward digits => (buffer.dot + digits.distance : Int) ≤ indexLimit
  | backward digits =>
      (digits.distance : Int) ≤ indexLimit ∧ (buffer.dot - digits.distance : Int) ≤ indexLimit

/-- How an address is written that may be missing. -/
def writtenOr (address : Option AddressToken) : List Char :=
  (address.map written).getD []

/-- The index that an address stands for, or another one where it is missing. -/
def indexOr (buffer : Buffer) (missing : Int) (address : Option AddressToken) : Int :=
  (address.map (index buffer)).getD missing

/-- An address ends where the text goes on: digits would belong to it. Where it is missing, the
text may not go on with an address; a comma is none.
-/
def EndsBefore (address : Option AddressToken) (text : List Char) : Prop :=
  ∀ c ∈ text.head?,
    c.isDigit = false ∧ (address = none → startsAddress c = false ∨ c = ',')

/-- In front of a character that starts no address every address ends. -/
theorem EndsBefore.of_not_startsAddress {address : Option AddressToken} {c : Char}
    {text : List Char} (none : startsAddress c = false)
    : EndsBefore address (c :: text) := by
  rintro c ⟨rfl⟩
  exact ⟨(Bool.or_eq_false_iff.mp none).2, fun _ => Or.inl none⟩

end AddressToken

----------------------------------------------------------------------------------------
-- Numbers
----------------------------------------------------------------------------------------

/-- The number that digits spell is read digit by digit from the left, by induction from the
right: the last digit is added to ten times the number before it.
-/
theorem Pattern.decimalValue_eq (digits : Digits) : decimalValue digits.chars = digits.value := by
  obtain ⟨chars, isDigit⟩ := digits
  show decimalValue chars = Nat.ofDigits 10 (chars.reverse.map fun c => c.toNat - '0'.toNat)
  clear isDigit
  induction chars using List.reverseRecOn with
  | nil => rfl
  | append_singleton chars c ih =>
      rw [decimalValue, List.foldl_append, ← decimalValue, ih, List.reverse_concat, List.map_cons,
        Nat.ofDigits_cons, Nat.add_comm, Nat.mul_comm]
      rfl

/-- Digits end where the text goes on with something else. -/
theorem span_digits (digits : Digits) {text : List Char}
    (ends : ∀ c ∈ text.head?, c.isDigit = false)
    : (digits.chars ++ text).span Char.isDigit = (digits.chars, text) :=
  span_append digits.digits ends

/-- Digits are read as the number that they spell, if it is within the limit. -/
theorem readNumber_digits {digits : Digits} (some : digits.chars ≠ []) {text : List Char}
    (ends : ∀ c ∈ text.head?, c.isDigit = false) (fits : (digits.value : Int) ≤ indexLimit)
    : readNumber (digits.chars ++ text) = .ok (Option.some digits.value, text) := by
  simp only [readNumber, span_digits digits ends, Pattern.decimalValue_eq, List.isEmpty_iff, some,
    if_false, fits, if_true]

/-- Without digits no number is read. -/
theorem readNumber_of_none {text : List Char} (ends : ∀ c ∈ text.head?, c.isDigit = false)
    : readNumber text = .ok (none, text) := by
  have span : text.span Char.isDigit = ([], text) := span_digits ⟨[], by simp⟩ ends
  simp only [readNumber, span, List.isEmpty_nil, if_true]

/-- Behind a sign the distance is read that the digits stand for. -/
theorem readNumber_distance {digits : Digits} {text : List Char}
    (ends : ∀ c ∈ text.head?, c.isDigit = false) (fits : (digits.distance : Int) ≤ indexLimit)
    : ∃ number,
        readNumber (digits.chars ++ text) = .ok (number, text)
        ∧ number.getD 1 = digits.distance := by
  unfold Digits.distance at fits ⊢
  by_cases none : digits.chars = []
  · rw [none, List.nil_append, if_pos rfl]
    exact ⟨_, readNumber_of_none ends, rfl⟩
  · rw [if_neg none] at fits ⊢
    exact ⟨_, readNumber_digits none ends fits, rfl⟩

/-- What stands behind a number is left. There is no number exactly where nothing is taken. -/
theorem readNumber_rest {text rest : List Char} {number : Option Nat}
    (read : readNumber text = .ok (number, rest))
    : rest <:+ text ∧ (number = none ↔ rest = text) := by
  simp only [readNumber, List.span_eq_takeWhile_dropWhile, List.isEmpty_iff] at read
  have parts := text.takeWhile_append_dropWhile (p := Char.isDigit)
  split at read
  next none =>
    cases read
    rw [none, List.nil_append] at parts
    exact ⟨List.dropWhile_suffix _, iff_of_true rfl parts⟩
  next some =>
    split at read
    next =>
      cases read
      refine ⟨List.dropWhile_suffix _, iff_of_false (Option.some_ne_none _) ?_⟩
      intro same
      rw [same] at parts
      exact some (List.append_left_eq_self.mp parts)
    next => cases read

----------------------------------------------------------------------------------------
-- Single addresses
----------------------------------------------------------------------------------------

/-- A digit is none of the characters that start an address of another kind. -/
theorem Buffer.readPlainAddress_of_isDigit (buffer : Buffer) (slot : Slot) {c : Char}
    (text : List Char) (digit : c.isDigit = true)
    : buffer.readPlainAddress slot (c :: text)
      = (do
          let (number, rest) ← readNumber (c :: text)
          return (number.map fun number => (number : Int) - 1, rest)) := by
  have others : c ∉ ['^', '$', '.', ',', '+', '-'] := by
    intro member
    simp only [List.mem_cons, List.not_mem_nil, or_false] at member
    rcases member with rfl | rfl | rfl | rfl | rfl | rfl <;> cases digit
  simp only [List.mem_cons, List.not_mem_nil, or_false, not_or] at others
  unfold readPlainAddress
  simp [others, digit]

namespace Context

variable {context : Context} {slot : Slot} {text rest : List Char}

theorem readAddress_of_isDigit (context : Context) (slot : Slot) {c : Char} (text : List Char)
    (digit : c.isDigit = true)
    : context.readAddress slot (c :: text)
      = (do
          let (number, rest) ← readNumber (c :: text)
          return (number.map fun number => (number : Int) - 1, rest),
        context.memory) := by
  rw [← context.buffer.readPlainAddress_of_isDigit slot text digit]
  unfold readAddress
  split
  case h_1 | h_2 =>
    next same =>
      obtain ⟨rfl, rfl⟩ := List.cons.inj same
      cases digit
  case h_3 => rfl

/-- An address that needs no search is read as the index that it stands for, in either place of a
range and whatever was remembered.
-/
theorem readAddress_written {token : AddressToken} (fits : token.Fits context.buffer)
    (ends : ∀ c ∈ text.head?, c.isDigit = false)
    : context.readAddress slot (token.written ++ text)
      = (.ok (some (token.index context.buffer), text), context.memory) := by
  cases token with
  | first | last | current => rfl
  | number digits some =>
      have read := readNumber_digits some ends fits
      obtain ⟨chars, isDigit⟩ := digits
      cases chars with
      | nil => exact absurd rfl some
      | cons c chars =>
          have first := context.readAddress_of_isDigit slot (chars ++ text)
            (isDigit c List.mem_cons_self)
          rw [List.cons_append] at read
          rw [read] at first
          exact first
  | forward digits =>
      have inside : (digits.distance : Int) ≤ indexLimit := by
        unfold AddressToken.Fits at fits
        omega
      obtain ⟨number, read, distance⟩ := readNumber_distance ends inside
      have offset
          : offsetIndex context.buffer.dot (number.getD 1)
            = .ok (context.buffer.dot + digits.distance : Int) := by
        rw [distance]
        exact if_pos fits
      simp only [AddressToken.written, List.cons_append, readAddress, Buffer.readPlainAddress, read,
        bind, Except.bind, offset]
      rfl
  | backward digits =>
      obtain ⟨number, read, distance⟩ := readNumber_distance ends fits.1
      have offset
          : offsetIndex context.buffer.dot (-(number.getD 1 : Nat))
            = .ok (context.buffer.dot - digits.distance : Int) := by
        rw [distance]
        exact if_pos fits.2
      simp only [AddressToken.written, List.cons_append, readAddress, Buffer.readPlainAddress, read,
        bind, Except.bind, offset]
      rfl

----------------------------------------------------------------------------------------
-- What addresses leave
----------------------------------------------------------------------------------------

/-- What an address leaves of a text is an end of it. It is the whole text where no address is
found, and otherwise only where a comma stands for the address.
-/
structure AddressRest (address : Option Int) (text rest : List Char) : Prop where
  suffix : rest <:+ text
  missing : address = none → rest = text
  found : address ≠ none → rest ≠ text ∨ rest.head? = some ','

theorem addressRest_none (text : List Char) : AddressRest none text text :=
  ⟨List.suffix_refl text, fun _ => rfl, fun some => absurd rfl some⟩

/-- A text that an address was taken from is not what is left. -/
theorem addressRest_cons {c : Char} (address : Option Int) (some : address ≠ none)
    (suffix : rest <:+ text)
    : AddressRest address (c :: text) rest where
  suffix := suffix.trans (List.suffix_cons c text)
  missing := fun none => absurd none some
  found := by
    intro _
    left
    rintro rfl
    have := suffix.length_le
    simp at this

theorem readSearch_rest {address : Option Int} {delimiter : Char} {memory : Memory}
    (read : context.readSearch slot delimiter text = (.ok (address, rest), memory))
    : address ≠ none ∧ rest <:+ text := by
  have suffix := Field.cut_rest_suffix delimiter text
  unfold readSearch at read
  dsimp only at read
  split at read
  · cases read
  · split at read
    · cases read
    · split at read
      · cases read
        exact ⟨Option.some_ne_none _, suffix⟩
      · cases read

theorem readPlainAddress_rest {buffer : Buffer} {address : Option Int}
    (read : buffer.readPlainAddress slot text = .ok (address, rest))
    : AddressRest address text rest := by
  unfold Buffer.readPlainAddress at read
  split at read
  · cases read
    exact addressRest_none _
  · next c text =>
    split at read
    case h_1 | h_2 | h_3 =>
      cases read
      exact addressRest_cons _ (Option.some_ne_none _) (List.suffix_refl _)
    case h_4 =>
      split at read
      · cases read
        exact ⟨List.suffix_refl _, fun _ => rfl, fun _ => Or.inr rfl⟩
      · cases read
        exact addressRest_none _
    case h_5 | h_6 =>
      obtain ⟨⟨number, left⟩, taken, read⟩ := bind_eq_ok_iff.mp read
      obtain ⟨index, _, read⟩ := bind_eq_ok_iff.mp read
      cases read
      exact addressRest_cons _ (Option.some_ne_none _) (readNumber_rest taken).1
    case h_7 =>
      split at read
      · obtain ⟨⟨number, left⟩, taken, read⟩ := bind_eq_ok_iff.mp read
        cases read
        obtain ⟨suffix, untaken⟩ := readNumber_rest taken
        cases number with
        | none =>
            rw [untaken.mp rfl]
            exact addressRest_none _
        | some number =>
            have some : Option.some (number - 1 : Int) ≠ none := Option.some_ne_none _
            have other : rest ≠ c :: text := mt untaken.mpr (Option.some_ne_none _)
            exact ⟨suffix, fun none => absurd none some, fun _ => Or.inl other⟩
      · cases read
        exact addressRest_none _

theorem readAddress_rest {address : Option Int} {memory : Memory}
    (read : context.readAddress slot text = (.ok (address, rest), memory))
    : AddressRest address text rest := by
  unfold readAddress at read
  split at read
  case h_1 | h_2 =>
    obtain ⟨some, suffix⟩ := readSearch_rest read
    exact addressRest_cons address some suffix
  case h_3 => exact readPlainAddress_rest (congrArg Prod.fst read)

----------------------------------------------------------------------------------------
-- Ranges
----------------------------------------------------------------------------------------

open AddressToken (Fits EndsBefore indexOr writtenOr)

/-- An address that may be missing is read in the second place as what it stands for. -/
theorem readAddress_second {address : Option AddressToken} (start : Int)
    (fits : ∀ token ∈ address, token.Fits context.buffer) (ends : EndsBefore address text)
    : context.readAddress (.second start) (writtenOr address ++ text)
      = (.ok (address.map (·.index context.buffer), text), context.memory) := by
  cases address with
  | some token => exact readAddress_written (fits token rfl) fun c first => (ends c first).1
  | none =>
      cases text with
      | nil => rfl
      | cons c text =>
          rcases (ends c rfl).2 rfl with none | rfl
          · exact readAddress_of_not_startsAddress _ none
          · rfl

/-- An address that may be missing is read in front of a comma as what it stands for. The comma stands
for a missing one and is left.
-/
theorem readAddress_first {address : Option AddressToken}
    (fits : ∀ token ∈ address, token.Fits context.buffer) (text : List Char)
    : ∃ index,
        context.readAddress .first (writtenOr address ++ ',' :: text)
          = (.ok (index, ',' :: text), context.memory)
        ∧ index.getD context.buffer.dot = indexOr context.buffer 0 address := by
  cases address with
  | none => exact ⟨some 0, rfl, rfl⟩
  | some token =>
      have comma : ∀ c ∈ (',' :: text).head?, c.isDigit = false := by
        rintro c ⟨rfl⟩
        rfl
      exact ⟨_, readAddress_written (fits token rfl) comma, rfl⟩

/-- Two addresses with a comma between them are read as what they stand for. A missing first one is
the first line, for which the comma stands before it is taken, and a missing second one the last.
-/
theorem readRange_two {first last : Option AddressToken}
    (firstFits : ∀ token ∈ first, token.Fits context.buffer)
    (lastFits : ∀ token ∈ last, token.Fits context.buffer) (ends : EndsBefore last text)
    : context.readRange (writtenOr first ++ ',' :: (writtenOr last ++ text))
      = (.ok ⟨indexOr context.buffer 0 first,
          indexOr context.buffer (context.buffer.size - 1) last, true, text⟩,
        context.memory) := by
  obtain ⟨address, read, index⟩ := readAddress_first firstFits (writtenOr last ++ text)
  have second
      : (context.withMemory context.memory).readAddress (.second (indexOr context.buffer 0 first))
          (writtenOr last ++ text)
        = (.ok (last.map (·.index context.buffer), text), context.memory) :=
    readAddress_second _ lastFits ends
  simp only [readRange, read, readSecond, second, index]
  rfl

/-- One address is read as both ends of the range, and the current line is a missing one. -/
theorem readRange_one {address : Option AddressToken}
    (fits : ∀ token ∈ address, token.Fits context.buffer) (ends : EndsBefore address text)
    (alone : text.head? ≠ some ',')
    : context.readRange (writtenOr address ++ text)
      = (.ok ⟨indexOr context.buffer context.buffer.dot address,
          indexOr context.buffer context.buffer.dot address, address.isSome, text⟩,
        context.memory) := by
  have read
      : context.readAddress .first (writtenOr address ++ text)
        = (.ok (address.map (·.index context.buffer), text), context.memory) := by
    cases address with
    | some token => exact readAddress_written (fits token rfl) fun c first => (ends c first).1
    | none =>
        cases text with
        | nil => rfl
        | cons c text =>
            have none := ((ends c rfl).2 rfl).resolve_right fun comma => alone (comma ▸ rfl)
            exact readAddress_of_not_startsAddress _ none
  simp only [readRange, read]
  split
  · next comma => exact absurd rfl alone
  · rw [Option.isSome_map]
    rfl

/-- What stands behind the addresses of a range is an end of the text, and any address was written
exactly if it is not the whole text: the comma that stands for an address is taken by the range.
-/
theorem readRange_rest {addresses : Addresses} {memory : Memory}
    (read : context.readRange text = (.ok addresses, memory))
    : addresses.rest <:+ text ∧ (addresses.explicit = true ↔ addresses.rest ≠ text) := by
  unfold readRange at read
  rcases front : context.readAddress .first text with ⟨error | ⟨address, left⟩, between⟩
  · simp [front] at read
  · have first := readAddress_rest front
    simp only [front] at read
    split at read
    · next behind =>
        unfold readSecond at read
        split at read
        · cases read
        · next last rest left second =>
            have behindSuffix := (readAddress_rest second).suffix
            have suffix := behindSuffix.trans ((List.suffix_cons ',' behind).trans first.suffix)
            have shorter : rest.length < text.length := by
              have taken := behindSuffix.length_le
              have comma := first.suffix.length_le
              rw [List.length_cons] at comma
              omega
            cases read
            exact ⟨suffix, iff_of_true rfl (ne_of_apply_ne List.length shorter.ne)⟩
    · next alone =>
        cases read
        refine ⟨first.suffix, ?_⟩
        cases address with
        | none => exact iff_of_false nofun fun other => other (first.missing rfl)
        | some index =>
            refine iff_of_true rfl ?_
            rcases first.found (Option.some_ne_none _) with other | comma
            · exact other
            · cases left with
              | nil => cases comma
              | cons c left =>
                  cases comma
                  exact absurd rfl (alone left)

end Context

----------------------------------------------------------------------------------------
-- Lines of a range
----------------------------------------------------------------------------------------

/-- No address was written, and a global command follows. -/
def Addresses.ChooseAll (addresses : Addresses) : Prop :=
  addresses.explicit = false ∧ ∃ text, addresses.rest = 'g' :: text ∨ addresses.rest = 'v' :: text

/-- The range that addresses in front of a command stand for. A global command without an address
has all lines of a buffer that has any; otherwise the ends of the range have to be in order and in
the buffer, where an empty buffer has the index zero.
-/
inductive Buffer.Chooses (buffer : Buffer) (addresses : Addresses) : LineRange → Prop
  | all (all : addresses.ChooseAll) (filled : 0 < buffer.size)
    : buffer.Chooses addresses buffer.wholeRange
  | ends {range : LineRange} (some : ¬ addresses.ChooseAll) (first : addresses.first = range.first)
    (last : addresses.last = range.last) (has : buffer.HasRange range)
    : buffer.Chooses addresses range

theorem Addresses.chooseAll_iff {addresses : Addresses}
    : addresses.ChooseAll
      ↔ (!addresses.explicit && addresses.rest.head?.any fun c => c == 'g' || c == 'v') = true := by
  rcases addresses with ⟨first, last, explicit, _ | ⟨c, rest⟩⟩
  · simp [ChooseAll]
  · simp [ChooseAll, exists_or]

theorem Buffer.checkRange_eq_ok_iff {buffer : Buffer} {first last : Int} {range : LineRange}
    : buffer.checkRange first last = .ok range
      ↔ first = range.first ∧ last = range.last ∧ buffer.HasRange range := by
  constructor
  · intro checked
    have has := hasRange_of_checkRange checked
    unfold checkRange at checked
    split at checked
    next => cases checked
    next admitted =>
      cases checked
      simp only [Bool.or_eq_true, decide_eq_true_eq, not_or] at admitted
      refine ⟨?_, ?_, has⟩ <;> dsimp only <;> omega
  · rintro ⟨rfl, rfl, has⟩
    exact checkRange_of_le has.ordered has.inside

namespace Context

variable {context : Context} {addresses : Addresses} {range : LineRange} {error : EditError}

theorem commandRange_of_chooseAll (all : addresses.ChooseAll)
    : context.commandRange addresses
      = if context.buffer.isEmpty then .error .badRange else .ok context.buffer.wholeRange :=
  if_pos (Addresses.chooseAll_iff.mp all)

theorem commandRange_of_not_chooseAll (some : ¬ addresses.ChooseAll)
    : context.commandRange addresses
      = context.buffer.checkRange addresses.first addresses.last :=
  if_neg (mt Addresses.chooseAll_iff.mpr some)

/-- The range of a command is the one that its addresses choose. -/
theorem commandRange_eq_ok_iff
    : context.commandRange addresses = .ok range ↔ context.buffer.Chooses addresses range := by
  by_cases all : addresses.ChooseAll
  · rw [commandRange_of_chooseAll all]
    split
    next empty =>
      refine iff_of_false nofun ?_
      rintro (⟨_, filled⟩ | ⟨some⟩)
      · exact absurd (Buffer.isEmpty_eq_true_iff _ |>.mp empty) filled.ne'
      · exact some all
    next filled =>
      rw [Buffer.isEmpty_eq_true_iff] at filled
      constructor
      · rintro ⟨rfl⟩
        exact .all all (Nat.pos_of_ne_zero filled)
      · rintro (_ | ⟨some⟩)
        · rfl
        · exact absurd all some
  · rw [commandRange_of_not_chooseAll all, Buffer.checkRange_eq_ok_iff]
    constructor
    · rintro ⟨first, last, has⟩
      exact .ends all first last has
    · rintro (⟨whole⟩ | ⟨_, first, last, has⟩)
      · exact absurd whole all
      · exact ⟨first, last, has⟩

/-- Addresses that choose no range are refused. -/
theorem commandRange_error (lost : context.commandRange addresses = .error error)
    : error = .badRange := by
  unfold commandRange Buffer.checkRange at lost
  split at lost <;> split at lost <;> cases lost <;> rfl

open AddressToken (EndsBefore indexOr writtenOr)

/-- A range that needs no search is read as what its addresses stand for, which is the same in both
places: a distance counts from the current line, also behind another address. With a comma the
first and the last line stand for missing addresses, without one the current line does. Whatever a
range looks like, its addresses are taken off the front of the line, and any was written exactly
if something was taken. The command then has the range that the addresses choose, which is the
whole buffer for a global command without an address; where they choose none it is refused.
-/
theorem readRange_denotes (context : Context)
    : (∀ (first last : Option AddressToken) (text : List Char),
        (∀ token ∈ first, token.Fits context.buffer)
        → (∀ token ∈ last, token.Fits context.buffer)
        → EndsBefore last text
        → context.readRange (writtenOr first ++ ',' :: (writtenOr last ++ text))
          = (.ok ⟨indexOr context.buffer 0 first,
              indexOr context.buffer (context.buffer.size - 1) last, true, text⟩,
            context.memory))
      ∧ (∀ (address : Option AddressToken) (text : List Char),
        (∀ token ∈ address, token.Fits context.buffer)
        → EndsBefore address text
        → text.head? ≠ some ','
        → context.readRange (writtenOr address ++ text)
          = (.ok ⟨indexOr context.buffer context.buffer.dot address,
              indexOr context.buffer context.buffer.dot address, address.isSome, text⟩,
            context.memory))
      ∧ ∀ (line : String) addresses memory,
        context.readRange line.toList = (.ok addresses, memory)
        → addresses.rest <:+ line.toList
          ∧ (addresses.explicit = true ↔ addresses.rest ≠ line.toList)
          ∧ (∀ range,
              context.buffer.Chooses addresses range
              → context.readCommand line
                = ((context.withMemory memory).readOperation addresses.rest).onRange range)
          ∧ ((∀ range, ¬ context.buffer.Chooses addresses range)
            → context.readCommand line = (.error .badRange, memory)) := by
  refine ⟨fun _ _ _ => readRange_two, fun _ _ => readRange_one, ?_⟩
  intro line addresses memory read
  obtain ⟨suffix, explicit⟩ := readRange_rest read
  refine ⟨suffix, explicit, ?_, ?_⟩
  · intro range chooses
    exact readCommand_of_commandRange rfl read (commandRange_eq_ok_iff.mpr chooses)
  · intro none
    cases found : context.commandRange addresses with
    | ok range => exact absurd (commandRange_eq_ok_iff.mp found) (none range)
    | error error =>
        rw [commandRange_error found] at found
        simp only [readCommand, read, found]

/-- From the second line to the one behind the current line, then backward by a number with zeros in
front, and a global command without an address.
-/
theorem readRange_denotes_relative
    : ∃ context : Context,
        context.readRange "2,+n".toList = (.ok ⟨1, 3, true, ['n']⟩, context.memory)
        ∧ context.readCommand "2,+n" = (.ok ⟨⟨1, 3⟩, .each .number⟩, context.memory)
        ∧ context.readRange "-002n".toList = (.ok ⟨0, 0, true, ['n']⟩, context.memory)
        ∧ context.readCommand "g" = (.error (.unrecognized (.missingPattern 'g')), context.memory)
        ∧ context.readCommand "0n" = (.error .badRange, context.memory) := by
  let context : Context := { buffer := { lines := ["a", "b", "c", "d", "e"], dot := 2 } }
  obtain ⟨two, one, any⟩ := readRange_denotes context
  have pair : context.readRange "2,+n".toList = (.ok ⟨1, 3, true, ['n']⟩, context.memory) := by
    refine two (some (.number ⟨['2'], by simp⟩ nofun)) (some (.forward ⟨[], by simp⟩)) ['n']
      ?_ ?_ (.of_not_startsAddress rfl)
    · rintro token ⟨rfl⟩
      show (2 : Int) ≤ indexLimit
      decide
    · rintro token ⟨rfl⟩
      show (2 + 1 : Int) ≤ indexLimit
      decide
  have back : context.readRange "-002n".toList = (.ok ⟨0, 0, true, ['n']⟩, context.memory) := by
    refine one (some (.backward ⟨['0', '0', '2'], by simp⟩)) ['n'] ?_ (.of_not_startsAddress rfl)
      (by decide)
    rintro token ⟨rfl⟩
    show (2 : Int) ≤ indexLimit ∧ (2 - 2 : Int) ≤ indexLimit
    decide
  have bare : context.readRange "g".toList = (.ok ⟨2, 2, false, ['g']⟩, context.memory) :=
    one none ['g'] nofun (.of_not_startsAddress rfl) (by decide)
  have zeroth : context.readRange "0n".toList = (.ok ⟨-1, -1, true, ['n']⟩, context.memory) := by
    refine one (some (.number ⟨['0'], by simp⟩ nofun)) ['n'] ?_ (.of_not_startsAddress rfl)
      (by decide)
    rintro token ⟨rfl⟩
    show (0 : Int) ≤ indexLimit
    decide
  refine ⟨context, pair, ?_, back, ?_, ?_⟩
  · have chosen : context.buffer.Chooses ⟨1, 3, true, ['n']⟩ ⟨1, 3⟩ :=
      .ends nofun rfl rfl ⟨by decide, by decide⟩
    rw [(any _ _ _ pair).2.2.1 _ chosen, readOperation_of_simple (by decide)]
    rfl
  · have chosen : context.buffer.Chooses ⟨2, 2, false, ['g']⟩ context.buffer.wholeRange :=
      .all ⟨rfl, [], Or.inl rfl⟩ (by decide)
    rw [(any _ _ _ bare).2.2.1 _ chosen, readOperation_of_unselected (Or.inl rfl) rfl]
    rfl
  · refine (any _ _ _ zeroth).2.2.2 ?_
    rintro range (⟨⟨explicit, _⟩, _⟩ | ⟨_, first⟩)
    · cases explicit
    · dsimp only at first
      omega

end Context

end LineEditor
