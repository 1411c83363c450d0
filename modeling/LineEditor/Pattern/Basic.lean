import LineEditor.Pattern.Meaning
import LineEditor.Pattern.Reader
import LineEditor.Pattern.Search
import LineEditor.Pattern.Size

/-! Compiled patterns: whether a line matches, and the line cut at its successive matches. -/

namespace LineEditor

/-- A pattern that has been compiled, with the text it came from. -/
structure Pattern where
  source : String
  program : Pattern.Program
  deriving DecidableEq, Repr

namespace Pattern

/-- Reads an expression. Faults of the text come before those of its meaning. -/
def Expr.ofText (ignoreCase : Bool) (text : List Char) : Except PatternFault Expr := do
  let node ← read text
  let (expr, _) ← node.meaning { ignoreCase := ignoreCase }
  return expr

/-- Compiles a pattern, of which the size is looked at last. -/
def compile (ignoreCase : Bool) (source : String) : Except PatternFault Pattern := do
  let expr ← Expr.ofText ignoreCase source.toList
  if expr.shape.fits then return ⟨source, expr.program⟩
  else .error .tooLarge

/-- Some part of the line matches. -/
def isMatch (pattern : Pattern) (line : String) : Bool :=
  (pattern.program.search none line.toList).isSome

/-- A match and the text between the match before and it. -/
structure Hit where
  gap : List Char
  text : List Char
  deriving DecidableEq, Repr

/-- A line cut at its matches: the hits in order, and the text after the last one. -/
structure Pieces where
  hits : List Hit
  tail : List Char
  deriving DecidableEq, Repr

/-- The next match. Where a match has just ended, an empty one is passed over, and the search
goes on behind the following character.
-/
def Program.searchNext (program : Program) (before : Option Char) (ended : Bool)
    (text : List Char) : Option Span :=
  match program.search before text with
  | some ⟨0, 0⟩ =>
      if ended then
        match text with
        | [] => none
        | c :: rest =>
            (program.search (some c) rest).map fun span => ⟨span.skipped + 1, span.length⟩
      else some ⟨0, 0⟩
  | found => found

/-- Cuts a text at its matches; `hits` are those found before, the last one first. After the
first turn every turn takes a character, so that the length of the text bounds the turns.
-/
def Program.cutFrom (program : Program)
    : Nat → Option Char → Bool → List Hit → List Char → Pieces
  | 0, _, _, hits, text => ⟨hits.reverse, text⟩
  | turns + 1, before, ended, hits, text =>
      match program.searchNext before ended text with
      | none => ⟨hits.reverse, text⟩
      | some span =>
          let gap := text.take span.skipped
          let found := (text.drop span.skipped).take span.length
          program.cutFrom turns ((gap ++ found).getLast?.or before) true
            (⟨gap, found⟩ :: hits) ((text.drop span.skipped).drop span.length)

/-- Cuts a line at its successive matches. -/
def cut (pattern : Pattern) (line : String) : Pieces :=
  let text := line.toList
  pattern.program.cutFrom (text.length + 2) none false [] text

/-- The text that was cut. -/
def Pieces.text (pieces : Pieces) : List Char :=
  pieces.hits.flatMap (fun hit => hit.gap ++ hit.text) ++ pieces.tail

end Pattern

end LineEditor
