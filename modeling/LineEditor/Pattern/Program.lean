import LineEditor.Pattern.Expr

/-! Patterns as programs: instructions that test, branch and accept, with expressions laid out
back to front so that every instruction knows its successor.
-/

namespace LineEditor.Pattern

open Unicode (CharSet)

/-- A step of a program; addresses are positions in the code. -/
inductive Instr where
  | accept
  | one (set : CharSet) (next : Nat)
  | look (condition : Look) (next : Nat)
  /-- Goes both ways and prefers the first. -/
  | fork (first second : Nat)
  deriving DecidableEq, Repr

/-- Code with the address at which to enter it. -/
structure Program where
  code : Array Instr
  entry : Nat
  deriving DecidableEq, Repr

namespace Program

/-- Puts an instruction in front, given the address of what follows. -/
def prepend (program : Program) (instr : Nat → Instr) : Program :=
  let ⟨code, entry⟩ := program
  let address := code.size
  ⟨code.push (instr entry), address⟩

/-- A fork between staying in a body and leaving it, in the order of preference. -/
def forkOn (greedy : Bool) (body exit : Nat) : Instr :=
  if greedy then .fork body exit else .fork exit body

/-- Lays out a body that may be repeated at once after it has matched. The fork behind the
body is reserved first, because the body needs its address.
-/
def repeating (program : Program) (greedy : Bool) (lay : Program → Program)
    : Program × Nat :=
  let back := program.code.size
  let body := lay ⟨program.code.push (.fork back back), back⟩
  let fork := forkOn greedy body.entry program.entry
  (⟨body.code.setIfInBounds back fork, body.entry⟩, back)

/-- Lays out a body that may be skipped; what is skipped to stays the same when bodies nest. -/
def optional (exit : Nat) (greedy : Bool) (lay : Program → Program) (program : Program)
    : Program :=
  (lay program).prepend fun body => forkOn greedy body exit

end Program

mutual

/-- Lays out an expression in front of a program. -/
def Expr.lay : Expr → Program → Program
  | .nothing, program => program
  | .one set, program => program.prepend (.one set)
  | .look condition, program => program.prepend (.look condition)
  | .capture body, program => body.lay program
  | .cat parts, program => layAll parts program
  | .alt branches, program => layBranches branches program
  | .repetition least most greedy body, program =>
      let exit := program.entry
      match most with
      | some most =>
          let tail := Nat.repeat (Program.optional exit greedy body.lay) (most - least) program
          Nat.repeat body.lay least tail
      | none =>
          let (loop, back) := program.repeating greedy body.lay
          if least > 0 then Nat.repeat body.lay (least - 1) loop
          else if body.nullable then loop.prepend fun body => Program.forkOn greedy body exit
          else ⟨loop.code, back⟩

/-- Lays out expressions in a row. -/
def layAll : List Expr → Program → Program
  | [], program => program
  | [expr], program => expr.lay program
  | expr :: exprs, program => expr.lay (layAll exprs program)

/-- Lays out alternatives that all lead to the program, the first one preferred. -/
def layBranches : List Expr → Program → Program
  | [], program => program
  | [branch], program => branch.lay program
  | branch :: branches, program =>
      let exit := program.entry
      let ⟨code, second⟩ := layBranches branches program
      (branch.lay ⟨code, exit⟩).prepend fun first => .fork first second

end

/-- The program of an expression, which ends by accepting. -/
def Expr.program (expr : Expr) : Program :=
  expr.lay ⟨#[.accept], 0⟩

end LineEditor.Pattern
