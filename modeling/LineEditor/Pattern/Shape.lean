import LineEditor.Pattern.Expr

/-! Expressions in their simplest form, in which rows and choices are as flat as they can be. -/

namespace LineEditor.Pattern

open Unicode (CharSet)

/-- An expression in simplest form. -/
inductive Shape where
  | empty
  | literal (text : List Char)
  | set (members : CharSet)
  | look (condition : Look)
  | repetition (least : Nat) (most : Option Nat) (greedy : Bool) (body : Shape)
  | capture (body : Shape)
  | row (parts : List Shape)
  | choice (branches : List Shape)

namespace Shape

----------------------------------------------------------------------------------------
-- Comparison
----------------------------------------------------------------------------------------

mutual

/-- Two shapes are the same. Captures never are, because each has a number of its own. -/
def same : Shape → Shape → Bool
  | empty, empty => true
  | literal left, literal right => left = right
  | set left, set right => left = right
  | look left, look right => left = right
  | repetition least most greedy body, repetition least' most' greedy' body' =>
      least = least' && most = most' && greedy = greedy' && body.same body'
  | row left, row right => allSame left right
  | choice left, choice right => allSame left right
  | _, _ => false

/-- Two lists hold the same shapes. -/
def allSame : List Shape → List Shape → Bool
  | [], [] => true
  | left :: lefts, right :: rights => left.same right && allSame lefts rights
  | _, _ => false

end

/-- How many parts two rows share at their start. -/
def sharedLength : List Shape → List Shape → Nat
  | left :: lefts, right :: rights => if left.same right then sharedLength lefts rights + 1 else 0
  | _, _ => 0

----------------------------------------------------------------------------------------
-- Simplest forms
----------------------------------------------------------------------------------------

/-- The shape of a set: one member is a literal. -/
def ofSet (members : CharSet) : Shape :=
  match members.ranges with
  | [(lo, hi)] => if lo = hi then literal [Char.ofNat lo] else set members
  | _ => set members

/-- The parts of a row; what is empty has none. -/
def parts : Shape → List Shape
  | empty => []
  | row parts => parts
  | part => [part]

/-- Joins neighbouring literals. -/
def joinLiterals : List Shape → List Shape
  | [] => []
  | literal text :: parts =>
      match joinLiterals parts with
      | literal more :: parts => literal (text ++ more) :: parts
      | parts => literal text :: parts
  | part :: parts => part :: joinLiterals parts

/-- Shapes in a row. -/
def ofRow (shapes : List Shape) : Shape :=
  match joinLiterals (shapes.flatMap parts) with
  | [] => empty
  | [part] => part
  | parts => row parts

/-- The branches of a choice. -/
def branches : Shape → List Shape
  | choice branches => branches
  | branch => [branch]

/-- The characters of branches that are single characters. -/
def characters? : List Shape → Option (List CharSet)
  | [] => some []
  | literal [c] :: branches => (characters? branches).map (.singleton c :: ·)
  | _ => none

/-- The sets of branches that are sets. -/
def sets? : List Shape → Option (List CharSet)
  | [] => some []
  | set members :: branches => (sets? branches).map (members :: ·)
  | _ => none

/-- How many parts all branches share at their start; only rows have parts to share. -/
def sharedParts : List Shape → Nat
  | row first :: others =>
      others.foldl (fun count other =>
        match other with
        | row parts => min count (sharedLength first parts)
        | _ => 0) first.length
  | _ => 0

/-- Shapes to choose from. Single characters, and sets, make one set; parts that all branches
start with come before the choice, and what is left of the branches is chosen from in turn.
Every turn takes a part from each branch, so that the number of parts bounds the turns.
-/
def choose : Nat → List Shape → Shape
  | turns, shapes =>
      match shapes.flatMap branches with
      | [] => set .empty
      | [branch] => branch
      | first :: others =>
          let branches := first :: others
          match (characters? branches).or (sets? branches) with
          | some sets => ofSet (.unions sets)
          | none =>
              match sharedParts branches, turns with
              | 0, _ | _, 0 => choice branches
              | shared, turns + 1 =>
                  ofRow (first.parts.take shared
                    ++ [choose turns (branches.map fun branch =>
                      ofRow (branch.parts.drop shared))])

mutual

/-- The number of shapes that a shape is made of. -/
def weight : Shape → Nat
  | repetition _ _ _ body => body.weight + 1
  | capture body => body.weight + 1
  | row parts => weights parts + 1
  | choice branches => weights branches + 1
  | _ => 1

/-- The weights of shapes in all. -/
def weights : List Shape → Nat
  | [] => 0
  | shape :: shapes => shape.weight + weights shapes

end

/-- Shapes to choose from. -/
def ofChoice (shapes : List Shape) : Shape := choose (weights shapes) shapes

----------------------------------------------------------------------------------------
-- Lengths and conditions
----------------------------------------------------------------------------------------

mutual

/-- The least number of characters that a match takes, where the shape can match at all. -/
def leastLength : Shape → Option Nat
  | empty => some 0
  | literal text => some text.length
  | set members => if members.ranges.isEmpty then none else some 1
  | look _ => some 0
  | repetition least _ _ body => body.leastLength.map (least * ·)
  | capture body => body.leastLength
  | row parts => do return (← leastLengths parts).sum
  | choice branches => do (← leastLengths branches).min?

/-- The least lengths of shapes that can all match. -/
def leastLengths : List Shape → Option (List Nat)
  | [] => some []
  | shape :: shapes => do return (← shape.leastLength) :: (← leastLengths shapes)

end

mutual

/-- The shape never takes a character. -/
def takesNothing : Shape → Bool
  | empty => true
  | literal _ => false
  | set _ => false
  | look _ => true
  | repetition _ most _ body => most == some 0 || body.takesNothing
  | capture body => body.takesNothing
  | row parts => allTakeNothing parts
  | choice branches => allTakeNothing branches

/-- No shape of the list ever takes a character. -/
def allTakeNothing : List Shape → Bool
  | [] => true
  | shape :: shapes => shape.takesNothing && allTakeNothing shapes

end

/-- The direction in which a text is read. -/
inductive Direction where
  | forward
  | backward
  deriving DecidableEq, Repr

mutual

/-- Every match has a condition to meet before it takes a character, in the given direction. -/
def demands (direction : Direction) (condition : Look) : Shape → Bool
  | look demanded => demanded = condition
  | repetition least _ _ body => least > 0 && body.demands direction condition
  | capture body => body.demands direction condition
  | row parts =>
      match direction with
      | .forward => leadDemands direction condition parts
      | .backward => tailDemands direction condition parts
  | choice branches => allDemand direction condition branches
  | _ => false

/-- A part demands the condition, and the parts before it take nothing. -/
def leadDemands (direction : Direction) (condition : Look) : List Shape → Bool
  | [] => false
  | part :: parts =>
      part.demands direction condition
        || (part.takesNothing && leadDemands direction condition parts)

/-- A part demands the condition, and the parts behind it take nothing. -/
def tailDemands (direction : Direction) (condition : Look) : List Shape → Bool
  | [] => false
  | part :: parts =>
      tailDemands direction condition parts
        || (allTakeNothing parts && part.demands direction condition)

/-- All branches demand the condition. -/
def allDemand (direction : Direction) (condition : Look) : List Shape → Bool
  | [] => true
  | branch :: branches =>
      branch.demands direction condition && allDemand direction condition branches

end

end Shape

----------------------------------------------------------------------------------------
-- Shapes of expressions
----------------------------------------------------------------------------------------

mutual

/-- The simplest form of an expression. -/
def Expr.shape : Expr → Shape
  | .nothing => .empty
  | .one set => .ofSet set
  | .look condition => .look condition
  | .repetition least most greedy body => .repetition least most greedy body.shape
  | .capture body => .capture body.shape
  | .cat parts => .ofRow (shapes parts)
  | .alt branches => .ofChoice (shapes branches)

/-- The simplest forms of expressions. -/
def shapes : List Expr → List Shape
  | [] => []
  | expr :: exprs => expr.shape :: shapes exprs

end

end LineEditor.Pattern
