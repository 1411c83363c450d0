import LineEditor.Pattern.Fault
import LineEditor.Pattern.Shape
import Std.Data.HashMap

/-! The size of a pattern as a machine over encoded bytes, which decides whether it is accepted.
One machine reads a text forward and a second one backward, and both have to be small enough.
-/

namespace LineEditor.Pattern

open Unicode (CharSet)

----------------------------------------------------------------------------------------
-- Encoded ranges
----------------------------------------------------------------------------------------

/-- The bytes that encode a code point, by the ranges of one to four bytes. -/
def encodedBytes (code : Nat) : List Nat :=
  if code ≤ 0x7F then [code]
  else if code ≤ 0x7FF then [0xC0 + code / 64, 0x80 + code % 64]
  else if code ≤ 0xFFFF then [0xE0 + code / 4096, 0x80 + code / 64 % 64, 0x80 + code % 64]
  else
    [0xF0 + code / 262144, 0x80 + code / 4096 % 64, 0x80 + code / 64 % 64, 0x80 + code % 64]

/-- The place after which a range of equally long encodings has to be split, because the bytes
below a block of the given width do not run through all their values.
-/
def blockSplit (lo hi width : Nat) : Option Nat :=
  if lo / width = hi / width then none
  else if lo % width ≠ 0 then some (lo / width * width + width - 1)
  else if hi % width ≠ width - 1 then some (hi / width * width - 1)
  else none

/-- The place after which a range has to be split to become a sequence of byte ranges. -/
def rangeSplit (lo hi : Nat) : Option Nat :=
  ([0x7F, 0x7FF, 0xFFFF].find? fun last => decide (lo ≤ last ∧ last < hi)).or
    (if hi ≤ 0x7F then none
     else (blockSplit lo hi 64).or ((blockSplit lo hi 4096).or (blockSplit lo hi 262144)))

/-- The sequences of byte ranges that encode a range of code points, in order. Every split
settles one block boundary, so that a few levels suffice.
-/
def byteSequences : Nat → Nat → Nat → List (List (Nat × Nat))
  | 0, _, _ => []
  | levels + 1, lo, hi =>
      if hi < lo then []
      else
        match rangeSplit lo hi with
        | some last => byteSequences levels lo last ++ byteSequences levels (last + 1) hi
        | none => [(encodedBytes lo).zip (encodedBytes hi)]

/-- The sequences that encode a range, without the surrogates, which have no encoding. -/
def characterSequences (range : Nat × Nat) : List (List (Nat × Nat)) :=
  byteSequences 24 range.1 (min range.2 0xD7FF) ++ byteSequences 24 (max range.1 0xE000) range.2

----------------------------------------------------------------------------------------
-- Extents
----------------------------------------------------------------------------------------

/-- How much of a machine has been built: the number of its states, which is also the number
that the next state gets, and the bytes that their edges take.
-/
structure Extent where
  states : Nat := 0
  edges : Nat := 0
  deriving DecidableEq, Repr

namespace Extent

/-- The bytes that a machine takes. -/
def size (extent : Extent) : Nat := 32 * extent.states + extent.edges

/-- Adds states that have one way to go. -/
def add (extent : Extent) (states : Nat) : Extent :=
  { extent with states := extent.states + states }

/-- Adds a state that tells ranges of bytes apart. -/
def addRanges (extent : Extent) (ranges : Nat) : Extent :=
  ⟨extent.states + 1, extent.edges + 8 * ranges⟩

/-- Adds a state that chooses from a number of ways. -/
def addChoice (extent : Extent) (ways : Nat) : Extent :=
  ⟨extent.states + 1, extent.edges + 4 * ways⟩

/-- Adds the same part a number of times, but no more once the machine is too large. -/
def addCopies (part : Extent → Extent) : Nat → Extent → Extent
  | 0, extent => extent
  | count + 1, extent =>
      if extent.size > PatternFault.sizeLimit then extent
      else addCopies part count (part extent)

end Extent

/-- How a machine is built: to read in a direction, with states that are shared where they can
be, or so that it is not smaller than either.
-/
inductive Build where
  | shared (direction : Shape.Direction)
  | ample
  deriving DecidableEq, Repr

----------------------------------------------------------------------------------------
-- Sets
----------------------------------------------------------------------------------------

/-- The slot of a table in which numbers are looked up, by a hash of the numbers in order. -/
def slotOf (slots : Nat) (numbers : List Nat) : Nat :=
  (numbers.foldl (fun (hash : UInt64) number => (hash ^^^ number.toUInt64) * 1099511628211)
    14695981039346656037).toNat % slots

/-- States that are known by what they do: every slot holds the latest of them. -/
structure KnownStates where
  slots : Nat
  table : Std.HashMap Nat (List Nat × Nat) := {}

namespace KnownStates

/-- The number of a state that does this. -/
def find? (known : KnownStates) (action : List Nat) : Option Nat :=
  match known.table[slotOf known.slots action]? with
  | some (found, state) => if found = action then some state else none
  | none => none

/-- Remembers a state instead of the one in its slot. -/
def remember (known : KnownStates) (action : List Nat) (state : Nat) : KnownStates :=
  { known with table := known.table.insert (slotOf known.slots action) (action, state) }

end KnownStates

/-- A machine together with the states of the set that is being built. -/
abbrev SetBuild := Extent × KnownStates

/-- Finds or adds a state that leads from ranges of bytes to other states. -/
def SetBuild.branch (build : SetBuild) (ways : List (Nat × Nat × Nat)) : Nat × SetBuild :=
  let (extent, known) := build
  let action := ways.flatMap fun (lo, hi, next) => [lo, hi, next]
  match known.find? action with
  | some state => (state, build)
  | none =>
      (extent.states, extent.addRanges ways.length, known.remember action extent.states)

/-- Builds the states that read sequences of byte ranges forward, each after the states that it
leads to; sequences with the same first range share it. The levels bound the lengths.
-/
def SetBuild.forward (target : Nat)
    : Nat → List (List (Nat × Nat)) → SetBuild → Nat × SetBuild
  | 0, _, build => (target, build)
  | levels + 1, sequences, build =>
      let (ways, build) :=
        (sequences.splitBy fun left right => left.head? == right.head?).foldl
          (fun (ways, build) group =>
            match group with
            | ((lo, hi) :: _) :: _ =>
                let (next, build) := SetBuild.forward target levels (group.map List.tail) build
                ((lo, hi, next) :: ways, build)
            | _ => (ways, build)) (([] : List (Nat × Nat × Nat)), build)
      if ways.isEmpty then (target, build) else build.branch ways.reverse

/-- Finds or adds the states that read a sequence of byte ranges backward. -/
def SetBuild.backward (target : Nat) (build : SetBuild) (sequence : List (Nat × Nat))
    : SetBuild :=
  (sequence.foldl (fun (target, build) (lo, hi) =>
    let (extent, known) := build
    match known.find? [target, lo, hi] with
    | some state => (state, build)
    | none =>
        (extent.states, extent.add 1, known.remember [target, lo, hi] extent.states))
    (target, build)).2

/-- Adds a set. One of ASCII characters is a state that tells ranges apart, and any other one
consists of byte sequences that share their ends.
-/
def Extent.addSet (build : Build) (members : CharSet) (extent : Extent) : Extent :=
  if members.isAscii then (extent.add 1).addRanges members.ranges.length
  else
    let sequences := members.ranges.flatMap characterSequences
    match build with
    | .shared .forward =>
        (SetBuild.forward extent.states 4 sequences (extent.add 1, ⟨10000, {}⟩)).2.1
    | .shared .backward =>
        let target := extent.states + 1
        (sequences.foldl (SetBuild.backward target)
          ((extent.addChoice sequences.length).add 1, ⟨1000, {}⟩)).1
    | .ample =>
        let ranges := sequences.flatten.length
        ((extent.addChoice sequences.length).add ranges).addRanges ranges

----------------------------------------------------------------------------------------
-- Choices between literals
----------------------------------------------------------------------------------------

/-- The stretches of words between those that end here. -/
def stretches : List (List Nat) → List (List (List Nat))
  | [] => [[]]
  | [] :: words => [] :: stretches words
  | word :: words =>
      match stretches words with
      | stretch :: others => (word :: stretch) :: others
      | [] => [[word]]

/-- Words of which only one of those that end here comes first. -/
def settleEnds : List (List Nat) → List (List Nat)
  | [] :: words => [] :: words.dropWhile List.isEmpty
  | words => words

/-- Adds the states that read one of several words which begin with the same bytes, given what
is left of them. In every stretch, words share their first byte. The levels bound the lengths.
-/
def Extent.addWords : Nat → List (List Nat) → Extent → Extent
  | 0, _, extent => extent
  | levels + 1, words, extent =>
      if words.all List.isEmpty then extent
      else
        let stretches := stretches (settleEnds words)
        let ends := stretches.length - 1
        let filled := stretches.filter fun stretch => !stretch.isEmpty
        filled.foldl
          (fun extent stretch =>
            let bytes := (stretch.filterMap List.head?).eraseDups
            let extent := extent.addRanges (if bytes.length = 1 then 0 else bytes.length)
            bytes.foldl (fun extent byte =>
              extent.addWords levels (stretch.filterMap fun word =>
                match word with
                | first :: rest => if first = byte then some rest else none
                | [] => none)) extent)
          (extent.addChoice (filled.length + ends))

/-- The bytes of a literal. -/
def literalBytes (text : List Char) : List Nat := text.flatMap fun c => encodedBytes c.toNat

/-- The literals that a choice is between, if there are no other branches. -/
def literals? : List Shape → Option (List (List Nat))
  | [] => some []
  | .literal text :: branches => (literals? branches).map (literalBytes text :: ·)
  | _ => none

/-- Adds a choice between literals, which is read from their starts or their ends. Without
sharing, every byte takes a choice and a state to tell it.
-/
def Extent.addLiterals (build : Build) (words : List (List Nat)) (extent : Extent) : Extent :=
  let lengths := words.map List.length
  match build with
  | .shared .forward => (extent.add 1).addWords (lengths.foldl max 0) words
  | .shared .backward =>
      (extent.add 1).addWords (lengths.foldl max 0) (words.map List.reverse)
  | .ample =>
      let size := words.flatten.length
      let extent := (extent.addChoice (size + words.length)).addRanges size
      extent.add (2 * size)

----------------------------------------------------------------------------------------
-- Shapes
----------------------------------------------------------------------------------------

/-- Adds a repetition of a part. -/
def Extent.addRepetition (least : Nat) (most : Option Nat) (nullable : Bool)
    (part : Extent → Extent) (extent : Extent) : Extent :=
  match least, most with
  | 0, none =>
      if nullable then (((part extent).addChoice 2).addChoice 2).add 1
      else part (extent.addChoice 2)
  | least, none => (extent.addCopies part least).addChoice 2
  | 0, some 1 => (part (extent.addChoice 2)).add 1
  | least, some most =>
      let start := if least = 0 then extent.add 1 else extent.addCopies part least
      if least = most then start
      else
        (start.add 1).addCopies (fun extent => part (extent.addChoice 2)) (most - least)

mutual

/-- Adds the states of a shape to a machine, in the order in which they get their numbers. -/
def Shape.build (build : Build) : Shape → Extent → Extent
  | .empty, extent => extent.add 1
  | .literal text, extent => extent.add (literalBytes text).length
  | .set members, extent => extent.addSet build members
  | .look _, extent => extent.add 1
  | .repetition least most _ body, extent =>
      extent.addRepetition least most (body.leastLength.all (· == 0)) (body.build build)
  | .capture body, extent =>
      if build = .shared .backward then body.build build extent
      else (body.build build (extent.add 1)).add 1
  | .row parts, extent =>
      if build = .shared .backward then buildBackward build parts extent
      else buildForward build parts extent
  | .choice branches, extent =>
      match literals? branches with
      | some words => extent.addLiterals build words
      | none => buildBranches build (branches.length) 0 branches extent

/-- Adds shapes in their order. -/
def buildForward (build : Build) : List Shape → Extent → Extent
  | [], extent => extent
  | shape :: shapes, extent => buildForward build shapes (shape.build build extent)

/-- Adds shapes from the last one to the first. -/
def buildBackward (build : Build) : List Shape → Extent → Extent
  | [], extent => extent
  | shape :: shapes, extent => shape.build build (buildBackward build shapes extent)

/-- Adds the branches of a choice, and behind the first two the choice itself. -/
def buildBranches (build : Build) (count : Nat) : Nat → List Shape → Extent → Extent
  | _, [], extent => extent
  | done, shape :: shapes, extent =>
      let extent := shape.build build extent
      buildBranches build count (done + 1) shapes
        (if done = 1 then (extent.addChoice count).add 1 else extent)

end

/-- Adds what leads to a match that need not begin at the start of a text. -/
def Extent.addApproach (anchored : Bool) (extent : Extent) : Extent :=
  if anchored then extent.add 1 else ((extent.addChoice 2).add 1).addRanges 1

/-- The extent of a whole machine: the approach, the shape as a capture, and its acceptance. -/
def Shape.machine (shape : Shape) (build : Build) : Extent :=
  let anchored :=
    match build with
    | .shared .forward => shape.demands .forward .textStart
    | .shared .backward => shape.demands .backward .textEnd
    | .ample => false
  ((Shape.capture shape).build build (Extent.addApproach anchored {})).add 1

/-- The machines of a shape are small enough. Most shapes show it without sharing of states. -/
def Shape.fits (shape : Shape) : Bool :=
  let small (build : Build) : Bool := (shape.machine build).size ≤ PatternFault.sizeLimit
  small .ample || (small (.shared .forward) && small (.shared .backward))

end LineEditor.Pattern
