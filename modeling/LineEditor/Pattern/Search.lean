import LineEditor.Pattern.Program
import LineEditor.Unicode.Property

/-! Running a program over a text: all ways at once, in the order of their preference. -/

namespace LineEditor.Pattern

open Unicode (CharSet)

/-- A position in a text: the characters on both sides of it. -/
structure Neighbours where
  before : Option Char
  after : Option Char

/-- Letters, digits and the underscore of ASCII. -/
def isAsciiWord (c : Char) : Bool :=
  c.isAlphanum || c == '_'

/-- A word character; ASCII ones are told without the tables. -/
def isWord (ascii : Bool) (c : Char) : Bool :=
  isAsciiWord c || (!ascii && c.toNat > 0x7F && Unicode.wordCharacters.contains c)

/-- The condition on the two sides of a position. -/
def WordCondition.holds (condition : WordCondition) (before after : Bool) : Bool :=
  match condition with
  | .boundary => before != after
  | .inside => before == after
  | .start => !before && after
  | .stop => before && !after
  | .startHalf => !before
  | .stopHalf => !after

/-- The condition holds between the two sides. -/
def Look.holds (condition : Look) (sides : Neighbours) : Bool :=
  match condition with
  | .textStart => sides.before.isNone
  | .textEnd => sides.after.isNone
  | .lineStart => sides.before.all (· == '\n')
  | .lineEnd => sides.after.all (· == '\n')
  | .crlfStart =>
      sides.before.all (· == '\n')
        || (sides.before == some '\r' && sides.after != some '\n')
  | .crlfEnd =>
      sides.after.all (· == '\r')
        || (sides.after == some '\n' && sides.before != some '\r')
  | .word condition ascii =>
      condition.holds (sides.before.any (isWord ascii)) (sides.after.any (isWord ascii))

/-- One way of matching: the address it has reached and the position it began at. -/
structure Thread where
  address : Nat
  start : Nat
  deriving DecidableEq, Repr

/-- The threads at one position, the preferred one last, and for every address the number of
the latest position at which it was reached.
-/
structure Front where
  threads : List Thread
  seen : Array Nat

/-- Follows forks and conditions from the addresses on a stack, the preferred one on top, to
instructions that wait for a character or accept. An address that was reached before at this
position leads nowhere new. Two steps for every address and one for every entry of the stack
are enough.
-/
def Front.explore (code : Array Instr) (sides : Neighbours) (stamp start : Nat)
    : Nat → List Nat → Front → Front
  | 0, _, front => front
  | _, [], front => front
  | steps + 1, address :: stack, front =>
      if front.seen.getD address stamp = stamp then
        front.explore code sides stamp start steps stack
      else
        let reached : Front := { front with seen := front.seen.setIfInBounds address stamp }
        match code[address]? with
        | some (.fork first second) =>
            reached.explore code sides stamp start steps (first :: second :: stack)
        | some (.look condition next) =>
            reached.explore code sides stamp start steps
              (if condition.holds sides then next :: stack else stack)
        | some _ =>
            { reached with threads := ⟨address, start⟩ :: reached.threads }.explore
              code sides stamp start steps stack
        | none => reached.explore code sides stamp start steps stack

/-- Adds the threads that begin at an address, after all threads that are there. -/
def Front.enter (front : Front) (code : Array Instr) (sides : Neighbours)
    (stamp start address : Nat) : Front :=
  front.explore code sides stamp start (2 * code.size + 1) [address]

/-- A stretch of a text: how many characters come before it and how many it holds. -/
structure Span where
  skipped : Nat
  length : Nat
  deriving DecidableEq, Repr

/-- Moves threads, the preferred one first, over the next character. A thread that accepts
ends the matter for those after it.
-/
def Front.advance (code : Array Instr) (position : Nat) (text : List Char) (next : Front)
    : List Thread → Option Span × Front
  | [] => (none, next)
  | thread :: threads =>
      match code[thread.address]?, text with
      | some .accept, _ => (some ⟨thread.start, position - thread.start⟩, next)
      | some (.one set address), c :: rest =>
          if set.contains c then
            (next.enter code ⟨some c, rest.head?⟩ (position + 2) thread.start
              address).advance code position text threads
          else next.advance code position text threads
      | _, _ => next.advance code position text threads

/-- Searches on from a position. While nothing has been found, a new way begins at every
position after those under way; what is found last comes from the most preferred way.
-/
def Program.searchFrom (program : Program) (position : Nat) (before : Option Char)
    (front : Front) (best : Option Span) (text : List Char) : Option Span :=
  let front :=
    if best.isNone then
      front.enter program.code ⟨before, text.head?⟩ (position + 1) position program.entry
    else front
  let (hit, next) :=
    Front.advance program.code position text ⟨[], front.seen⟩ front.threads.reverse
  let best := hit.or best
  match text with
  | [] => best
  | c :: rest =>
      if next.threads.isEmpty && best.isSome then best
      else program.searchFrom (position + 1) (some c) next best rest

/-- The first match in a text that follows a character, and of the matches that begin there
the preferred one.
-/
def Program.search (program : Program) (before : Option Char) (text : List Char)
    : Option Span :=
  program.searchFrom 0 before ⟨[], Array.replicate program.code.size 0⟩ none text

end LineEditor.Pattern
