/-! How alike two words are: by the characters that they share at nearby places. -/

namespace LineEditor.Text

/-- The first place from some place on, up to a bound, that holds a character and is free. -/
def freePlace (c : Char) (free : List Nat) (word : List Char) (least bound : Nat)
    : Option Nat :=
  free.find? fun place => least ≤ place && place < bound && word[place]? = some c

/-- Pairs the characters of a word with equal ones of another within a distance; gives the
places of both words that are paired. -/
def pairPlaces (reach : Nat) (other : List Char)
    : Nat → List Nat → List Char → List (Char × Nat)
  | _, _, [] => []
  | place, free, c :: word =>
      match freePlace c free other (place - reach) (place + reach + 1) with
      | some found => (c, found) :: pairPlaces reach other (place + 1) (free.erase found) word
      | none => pairPlaces reach other (place + 1) free word

/-- Two words are alike if the mean of three shares is at least seven tenths: of the characters
of either word that are paired, and of the pairs that come in the same order.
-/
def isAlike (left right : String) : Bool :=
  let left := left.toList
  let right := right.toList
  let reach := max left.length right.length / 2 - 1
  let pairs := pairPlaces reach right 0 (List.range right.length) left
  let inOrder := (List.range right.length).filter fun place => pairs.any (·.2 = place)
  let swaps := ((pairs.zip inOrder).filter fun ((c, _), place) =>
    right[place]? != some c).length / 2
  let count := pairs.length
  let product := left.length * right.length
  count > 0 && 21 * product * count
    ≤ 10 * (count * count * (left.length + right.length) + (count - swaps) * product)

end LineEditor.Text
