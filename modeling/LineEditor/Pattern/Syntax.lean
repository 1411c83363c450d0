import LineEditor.Unicode.PropertyQuery

/-! The syntax tree of a pattern as it is written, before flags give it a meaning. -/

namespace LineEditor.Pattern

open Unicode (PropertyQuery)

/-- The switches that a pattern can set for a part of itself. -/
inductive Flag where
  | ignoreCase
  | multiLine
  | dotAll
  | swapGreed
  | unicode
  | crlf
  | verbose
  deriving DecidableEq, Repr

/-- Flags with the state they are put into. -/
abbrev FlagChanges := List (Flag × Bool)

/-- A character of a pattern; `byte` records that two hexadecimal digits spell it. -/
structure Literal where
  char : Char
  byte : Bool
  deriving DecidableEq, Repr

/-- Classes with a one-letter escape. -/
inductive Shorthand where
  | digit
  | space
  | word
  deriving DecidableEq, Repr

/-- Classes of ASCII characters that bracket expressions name. -/
inductive AsciiClass where
  | alnum
  | alpha
  | ascii
  | blank
  | cntrl
  | digit
  | graph
  | lower
  | print
  | punct
  | space
  | upper
  | word
  | xdigit
  deriving DecidableEq, Repr

/-- Operators between the sets of a bracket expression. -/
inductive SetOperator where
  | inter
  | diff
  | symmDiff
  deriving DecidableEq, Repr

mutual

/-- A member of a bracket expression. -/
inductive ClassItem where
  | literal (literal : Literal)
  | range (lo hi : Literal)
  | ascii (kind : AsciiClass) (negated : Bool)
  | shorthand (kind : Shorthand) (negated : Bool)
  | property (query : PropertyQuery) (negated : Bool)
  | nested (negated : Bool) (set : ClassSet)

/-- The inside of a bracket expression. -/
inductive ClassSet where
  | union (items : List ClassItem)
  | combine (operator : SetOperator) (left right : ClassSet)

end

/-- Conditions on a position that consume nothing. -/
inductive Assertion where
  | lineStart
  | lineEnd
  | textStart
  | textEnd
  | wordBoundary
  | notWordBoundary
  | wordStart
  | wordEnd
  | wordStartHalf
  | wordEndHalf
  deriving DecidableEq, Repr

/-- A pattern as written. -/
inductive Node where
  | empty
  | flags (changes : FlagChanges)
  | literal (literal : Literal)
  | dot
  | assertion (assertion : Assertion)
  | shorthand (kind : Shorthand) (negated : Bool)
  | property (query : PropertyQuery) (negated : Bool)
  | bracket (negated : Bool) (set : ClassSet)
  | repetition (least : Nat) (most : Option Nat) (greedy : Bool) (body : Node)
  | group (changes : FlagChanges) (capturing : Bool) (body : Node)
  | alternation (branches : List Node)
  | concatenation (parts : List Node)

/-- Parts in a row as one node. -/
def Node.ofParts : List Node → Node
  | [] => .empty
  | [part] => part
  | parts => .concatenation parts

mutual

/-- The nesting depth of a member of a bracket expression. -/
def ClassItem.depth : ClassItem → Nat
  | .nested _ set => set.depth + 1
  | _ => 0

/-- The nesting depth of a set: unions of one member add nothing to it. -/
def ClassSet.depth : ClassSet → Nat
  | .union [] => 0
  | .union [item] => item.depth
  | .union items => itemsDepth items + 1
  | .combine _ left right => max left.depth right.depth + 1

/-- The greatest depth among members. -/
def itemsDepth : List ClassItem → Nat
  | [] => 0
  | item :: items => max item.depth (itemsDepth items)

end

mutual

/-- The nesting depth of a pattern: every node that holds others counts one. -/
def Node.depth : Node → Nat
  | .bracket _ set => set.depth + 1
  | .repetition _ _ _ body => body.depth + 1
  | .group _ _ body => body.depth + 1
  | .alternation branches => nodesDepth branches + 1
  | .concatenation parts => nodesDepth parts + 1
  | _ => 0

/-- The greatest depth among nodes. -/
def nodesDepth : List Node → Nat
  | [] => 0
  | node :: nodes => max node.depth (nodesDepth nodes)

end

end LineEditor.Pattern
