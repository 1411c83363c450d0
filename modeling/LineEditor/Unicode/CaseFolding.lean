import LineEditor.Unicode.FoldOrbits

/-! Simple case folding.
It tells the characters that differ in case only, and closes a set under them.
-/

namespace LineEditor.Unicode

/-- The classes of simple case folding, each with its least code point first. -/
def foldOrbits : List (List Nat) :=
  (((tableEntries foldOrbitEntries).foldl
    (fun (state : Nat × List (List Nat)) entry =>
      match entry with
      | gap :: distances =>
          let least := state.1 + tableNumber gap
          (least, (least :: distances.map fun distance => least + tableNumber distance)
            :: state.2)
      | [] => state)
    (0, [])).2).reverse

/-- Adds to a set every character that folds together with one of its members. -/
def CharSet.caseClosure (set : CharSet) : CharSet :=
  set.union (.ofRanges ((foldOrbits.filter fun orbit =>
    orbit.any fun code => CharSet.covers code set.ranges).flatMap fun orbit =>
      orbit.map fun code => (code, code)))

/-- Adds to a set the other case of its ASCII letters. -/
def CharSet.asciiCaseClosure (set : CharSet) : CharSet :=
  set.union (.ofRanges ((List.range 26).flatMap fun offset =>
    let upper := 0x41 + offset
    let lower := 0x61 + offset
    if CharSet.covers upper set.ranges || CharSet.covers lower set.ranges
    then [(upper, upper), (lower, lower)] else []))

end LineEditor.Unicode
