/-! Sets of code points as increasing lists of closed ranges, with membership and set algebra. -/

namespace LineEditor.Unicode

/-- A set of code points; the ranges are disjoint, closed and in increasing order. -/
structure CharSet where
  ranges : List (Nat × Nat)
  deriving DecidableEq, Repr, Inhabited

namespace CharSet

/-- The greatest code point. -/
def maxCode : Nat := 0x10FFFF

/-- A range with its ends moved inwards to code points that characters have: no character has
one from 0xD800 to 0xDFFF.
-/
def trim (range : Nat × Nat) : Nat × Nat :=
  let isHole (code : Nat) : Bool := 0xD800 ≤ code && code ≤ 0xDFFF
  (if isHole range.1 then 0xE000 else range.1, if isHole range.2 then 0xD7FF else range.2)

/-- A code lies in one of the increasing ranges; the walk stops at the first range above it. -/
def covers (code : Nat) : List (Nat × Nat) → Bool
  | [] => false
  | (lo, hi) :: rest => decide (lo ≤ code) && (decide (code ≤ hi) || covers code rest)

/-- The set holds the character. -/
def contains (set : CharSet) (c : Char) : Bool :=
  covers c.toNat set.ranges

/-- Joins each range with the following ones that overlap or touch it. -/
def coalesceFrom (current : Nat × Nat) : List (Nat × Nat) → List (Nat × Nat)
  | [] => [current]
  | next :: rest =>
      if next.1 ≤ current.2 + 1 then coalesceFrom (current.1, max current.2 next.2) rest
      else current :: coalesceFrom next rest

/-- Joins overlapping and touching ranges of a list sorted by lower ends. -/
def coalesce : List (Nat × Nat) → List (Nat × Nat)
  | [] => []
  | first :: rest => coalesceFrom first rest

/-- The set of the code points in any of the ranges; a range with crossed ends is empty. -/
def ofRanges (ranges : List (Nat × Nat)) : CharSet :=
  ⟨coalesce ((ranges.filter fun range => range.1 ≤ range.2).mergeSort fun left right =>
    left.1 ≤ right.1)⟩

/-- No code point. -/
def empty : CharSet := ⟨[]⟩

/-- Every code point. -/
def full : CharSet := ⟨[(0, maxCode)]⟩

/-- The code points from one character to another. -/
def interval (lo hi : Char) : CharSet :=
  ⟨if lo.toNat ≤ hi.toNat then [(lo.toNat, hi.toNat)] else []⟩

/-- A single character. -/
def singleton (c : Char) : CharSet := ⟨[(c.toNat, c.toNat)]⟩

/-- The code points of either set. -/
def union (left right : CharSet) : CharSet :=
  ofRanges (left.ranges ++ right.ranges)

/-- The code points of any of the sets. -/
def unions (sets : List CharSet) : CharSet :=
  ofRanges (sets.flatMap ranges)

/-- The ranges between the given increasing ranges, from a starting code on. -/
def gapsFrom (start : Nat) : List (Nat × Nat) → List (Nat × Nat)
  | [] => if start ≤ maxCode then [(start, maxCode)] else []
  | (lo, hi) :: rest =>
      if start < lo then (start, lo - 1) :: gapsFrom (hi + 1) rest
      else gapsFrom (hi + 1) rest

/-- The code points outside the set. -/
def complement (set : CharSet) : CharSet :=
  ⟨gapsFrom 0 set.ranges⟩

/-- The code points of both sets, as what neither complement holds. -/
def inter (left right : CharSet) : CharSet :=
  (left.complement.union right.complement).complement

/-- The code points of the first set only, in ranges that end at characters. -/
def diff (left right : CharSet) : CharSet :=
  .ofRanges ((left.inter right.complement).ranges.map trim)

/-- What a negation in a pattern holds: the gaps of the set, with their ends moved inwards to
characters and put in order. So the gap of a set that ends right before the code points without
a character and goes on right behind them holds the two characters at its sides. The gaps keep
their order, but may come to touch.
-/
def negation (set : CharSet) : CharSet :=
  ⟨coalesce (set.complement.ranges.map fun gap =>
    let (lo, hi) := trim gap
    (min lo hi, max lo hi))⟩

/-- The code points of exactly one of the sets. -/
def symmDiff (left right : CharSet) : CharSet :=
  (left.union right).diff (left.inter right)

/-- Every code point of the set is below 128. -/
def isAscii (set : CharSet) : Bool :=
  set.ranges.all fun range => range.2 ≤ 0x7F

end CharSet

end LineEditor.Unicode
