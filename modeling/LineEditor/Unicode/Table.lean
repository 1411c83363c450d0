import LineEditor.Unicode.CharSet

/-! Reading of property tables.
A table is a list of lines of blank-separated entries, whose parts are separated by colons.
-/

namespace LineEditor.Unicode

/-- The entries of a table, each as the list of its parts. -/
def tableEntries (lines : List String) : List (List String) :=
  lines.flatMap fun line => (line.splitOn " ").map fun entry => entry.splitOn ":"

/-- The number a table part spells. -/
def tableNumber (part : String) : Nat :=
  part.toNat?.getD 0

/-- Ranges from entries of a gap and a length; each gap counts from the end of the range before. -/
def gapRanges (lines : List String) : List (Nat × Nat) :=
  (((tableEntries lines).foldl
    (fun (state : Nat × List (Nat × Nat)) entry =>
      match entry with
      | [gap, length] =>
          let start := state.1 + tableNumber gap
          let stop := start + tableNumber length
          (stop, (start, stop - 1) :: state.2)
      | _ => state)
    (0, [])).2).reverse

/-- Labelled ranges from entries of a label and a length that cover the code space in order. -/
def labelledRuns (lines : List String) : List (String × Nat × Nat) :=
  (((tableEntries lines).foldl
    (fun (state : Nat × List (String × Nat × Nat)) entry =>
      match entry with
      | [label, length] =>
          let stop := state.1 + tableNumber length
          (stop, (label, state.1, stop - 1) :: state.2)
      | _ => state)
    (0, [])).2).reverse

/-- The set of the code points in runs whose label is accepted. -/
def runSet (runs : List (String × Nat × Nat)) (accepts : String → Bool) : CharSet :=
  .ofRanges (runs.filterMap fun run => if accepts run.1 then some run.2 else none)

end LineEditor.Unicode
