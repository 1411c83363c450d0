import LineEditor.Unicode.CharSet

/-! Patterns by meaning.
They are made of sets of characters and conditions on positions, in four ways to combine them.
-/

namespace LineEditor.Pattern

open Unicode (CharSet)

/-- Conditions that compare the word characters on both sides of a position. -/
inductive WordCondition where
  | boundary
  | inside
  | start
  | stop
  | startHalf
  | stopHalf
  deriving DecidableEq, Repr

/-- Conditions on a position between two characters. -/
inductive Look where
  | textStart
  | textEnd
  | lineStart
  | lineEnd
  /-- A line start where a carriage return, a line feed or both end lines. -/
  | crlfStart
  | crlfEnd
  | word (condition : WordCondition) (ascii : Bool)
  deriving DecidableEq, Repr

/-- The condition tells word characters by more than ASCII. -/
def Look.needsUnicode : Look → Bool
  | word _ ascii => !ascii
  | _ => false

/-- A pattern with its flags applied. -/
inductive Expr where
  | nothing
  | one (set : CharSet)
  | look (condition : Look)
  | repetition (least : Nat) (most : Option Nat) (greedy : Bool) (body : Expr)
  | capture (body : Expr)
  | cat (parts : List Expr)
  | alt (branches : List Expr)

namespace Expr

mutual

/-- The expression cannot take a character. -/
def takesNothing : Expr → Bool
  | nothing => true
  | one _ => false
  | look _ => true
  | repetition _ most _ body => most == some 0 || body.takesNothing
  | capture body => body.takesNothing
  | cat parts => allTakeNothing parts
  | alt branches => allTakeNothing branches

/-- No expression of the list can take a character. -/
def allTakeNothing : List Expr → Bool
  | [] => true
  | expr :: exprs => expr.takesNothing && allTakeNothing exprs

end

mutual

/-- The expression may match without taking a character. -/
def nullable : Expr → Bool
  | nothing => true
  | one set => set.ranges.isEmpty
  | look _ => true
  | repetition least _ _ body => least == 0 || body.nullable
  | capture body => body.nullable
  | cat parts => allNullable parts
  | alt branches => anyNullable branches

/-- Every expression of the list may match without taking a character. -/
def allNullable : List Expr → Bool
  | [] => true
  | expr :: exprs => expr.nullable && allNullable exprs

/-- Some expression of the list may match without taking a character. -/
def anyNullable : List Expr → Bool
  | [] => false
  | expr :: exprs => expr.nullable || anyNullable exprs

end

mutual

/-- Some condition that the expression looks at has a property. -/
def anyLook (holds : Look → Bool) : Expr → Bool
  | nothing => false
  | one _ => false
  | look condition => holds condition
  | repetition _ _ _ body => body.anyLook holds
  | capture body => body.anyLook holds
  | cat parts => listAnyLook holds parts
  | alt branches => listAnyLook holds branches

/-- Some condition that the expressions look at has a property. -/
def listAnyLook (holds : Look → Bool) : List Expr → Bool
  | [] => false
  | expr :: exprs => expr.anyLook holds || listAnyLook holds exprs

end

/-- Repeats an expression. One that takes nothing need not be repeated more than once, and
trivial counts leave no repetition.
-/
def repeated (least : Nat) (most : Option Nat) (greedy : Bool) (body : Expr) : Expr :=
  let (least, most) :=
    if body.takesNothing then (min least 1, some (min (most.getD 1) 1)) else (least, most)
  if most = some 0 then nothing
  else if least = 1 && most = some 1 then body
  else repetition least most greedy body

end Expr

end LineEditor.Pattern
