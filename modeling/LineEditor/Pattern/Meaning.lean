import LineEditor.Pattern.Expr
import LineEditor.Pattern.Scan
import LineEditor.Pattern.Syntax
import LineEditor.Unicode.CaseFolding

/-! The meaning of a written pattern under its flags.
It tells which sets, conditions and repetitions the pattern asks for.
-/

namespace LineEditor.Pattern

open Unicode (CharSet PropertyFault PropertyQuery)

/-- The flags that decide what a pattern means. -/
structure Flags where
  ignoreCase : Bool := false
  multiLine : Bool := false
  dotAll : Bool := false
  swapGreed : Bool := false
  unicode : Bool := true
  crlf : Bool := false
  deriving DecidableEq, Repr

namespace Flags

/-- Puts one flag into a state; the verbose flag matters to reading only. -/
def put (flags : Flags) (change : Flag × Bool) : Flags :=
  match change with
  | (.ignoreCase, state) => { flags with ignoreCase := state }
  | (.multiLine, state) => { flags with multiLine := state }
  | (.dotAll, state) => { flags with dotAll := state }
  | (.swapGreed, state) => { flags with swapGreed := state }
  | (.unicode, state) => { flags with unicode := state }
  | (.crlf, state) => { flags with crlf := state }
  | (.verbose, _) => flags

/-- Applies changes in order. -/
def apply (flags : Flags) (changes : FlagChanges) : Flags :=
  changes.foldl put flags

end Flags

----------------------------------------------------------------------------------------
-- Classes
----------------------------------------------------------------------------------------

/-- The members of a class named in brackets. -/
def AsciiClass.members (kind : AsciiClass) : CharSet :=
  let digits := (0x30, 0x39)
  let uppers := (0x41, 0x5A)
  let lowers := (0x61, 0x7A)
  match kind with
  | .alnum => ⟨[digits, uppers, lowers]⟩
  | .alpha => ⟨[uppers, lowers]⟩
  | .ascii => ⟨[(0, 0x7F)]⟩
  | .blank => ⟨[(0x09, 0x09), (0x20, 0x20)]⟩
  | .cntrl => ⟨[(0, 0x1F), (0x7F, 0x7F)]⟩
  | .digit => ⟨[digits]⟩
  | .graph => ⟨[(0x21, 0x7E)]⟩
  | .lower => ⟨[lowers]⟩
  | .print => ⟨[(0x20, 0x7E)]⟩
  | .punct => ⟨[(0x21, 0x2F), (0x3A, 0x40), (0x5B, 0x60), (0x7B, 0x7E)]⟩
  | .space => ⟨[(0x09, 0x0D), (0x20, 0x20)]⟩
  | .upper => ⟨[uppers]⟩
  | .word => ⟨[digits, uppers, (0x5F, 0x5F), lowers]⟩
  | .xdigit => ⟨[digits, (0x41, 0x46), (0x61, 0x66)]⟩

/-- The members of a one-letter class, within ASCII or beyond it. -/
def Shorthand.members (kind : Shorthand) (unicode : Bool) : CharSet :=
  match kind, unicode with
  | .digit, true => Unicode.decimalDigits
  | .space, true => Unicode.whiteSpace
  | .word, true => Unicode.wordCharacters
  | .digit, false => AsciiClass.digit.members
  | .space, false => AsciiClass.space.members
  | .word, false => AsciiClass.word.members

namespace Flags

/-- Closes a set under change of case if case is ignored. -/
def fold (flags : Flags) (set : CharSet) : CharSet :=
  if !flags.ignoreCase then set
  else if flags.unicode then set.caseClosure
  else set.asciiCaseClosure

/-- Accepts a set unless characters are bytes and it reaches beyond ASCII, where a single byte
would be a part of a character.
-/
def whole (flags : Flags) (set : CharSet) : Fallible CharSet :=
  if flags.unicode || set.isAscii then .ok set else .error .partialCharacter

/-- Completes a set: change of case first, then negation. -/
def complete (flags : Flags) (negated : Bool) (set : CharSet) : Fallible CharSet :=
  let set := flags.fold set
  flags.whole (if negated then set.negation else set)

/-- The set of a one-letter class; such classes are closed under change of case. -/
def shorthand (flags : Flags) (kind : Shorthand) (negated : Bool) : Fallible CharSet :=
  let set := kind.members flags.unicode
  flags.whole (if negated then set.negation else set)

/-- The set of a property, which needs characters beyond bytes. -/
def property (flags : Flags) (query : PropertyQuery) (negated : Bool) : Fallible CharSet :=
  if !flags.unicode then .error .beyondAscii
  else
    match query.set with
    | .ok set => flags.complete negated set
    | .error .unknownProperty => .error .propertyUnknown
    | .error .unknownValue => .error .propertyValueUnknown

/-- The character of a literal. Where characters are bytes, a code that spells a byte beyond
ASCII is a part of a character.
-/
def literal (flags : Flags) (literal : Literal) : Fallible Char :=
  if !flags.unicode && literal.byte && literal.char.toNat > 0x7F then
    .error .partialCharacter
  else .ok literal.char

/-- The character of a literal inside a class, which has to be a byte where characters are. -/
def classLiteral (flags : Flags) (literal : Literal) : Fallible Char := do
  let c ← flags.literal literal
  if !flags.unicode && c.toNat > 0x7F then .error .beyondAscii else .ok c

end Flags

mutual

/-- The members that an item adds to its class. -/
def ClassItem.members (flags : Flags) : ClassItem → Fallible CharSet
  | .literal spelled => do return .singleton (← flags.classLiteral spelled)
  | .range lo hi => do
      let lo ← flags.classLiteral lo
      let hi ← flags.classLiteral hi
      return .interval lo hi
  | .ascii kind negated => flags.complete negated kind.members
  | .shorthand kind negated => flags.shorthand kind negated
  | .property query negated => flags.property query negated
  | .nested negated set => do flags.complete negated (← set.members flags)

/-- The members of a set; operators see their operands closed under change of case. -/
def ClassSet.members (flags : Flags) : ClassSet → Fallible CharSet
  | .union items => do return .unions (← itemMembers flags items)
  | .combine operator left right => do
      let left ← left.members flags
      let right ← right.members flags
      let left := flags.fold left
      let right := flags.fold right
      return match operator with
        | .inter => left.inter right
        | .diff => left.diff right
        | .symmDiff => left.symmDiff right

/-- The members of each item, up to the first fault. -/
def itemMembers (flags : Flags) : List ClassItem → Fallible (List CharSet)
  | [] => .ok []
  | item :: items => do
      let set ← item.members flags
      return set :: (← itemMembers flags items)

end

----------------------------------------------------------------------------------------
-- Whole patterns
----------------------------------------------------------------------------------------

/-- The condition that an assertion asks for. -/
def Assertion.condition (flags : Flags) (assertion : Assertion) : Look :=
  let word (condition : WordCondition) : Look := .word condition (!flags.unicode)
  match assertion with
  | .textStart => .textStart
  | .textEnd => .textEnd
  | .lineStart =>
      if !flags.multiLine then .textStart else if flags.crlf then .crlfStart else .lineStart
  | .lineEnd =>
      if !flags.multiLine then .textEnd else if flags.crlf then .crlfEnd else .lineEnd
  | .wordBoundary => word .boundary
  | .notWordBoundary => word .inside
  | .wordStart => word .start
  | .wordEnd => word .stop
  | .wordStartHalf => word .startHalf
  | .wordEndHalf => word .stopHalf

/-- The characters that a dot matches: those that end no line, or all of them. -/
def Flags.dot (flags : Flags) : Fallible CharSet :=
  if !flags.unicode then .error .partialCharacter
  else if flags.dotAll then .ok .full
  else
    let ends : CharSet :=
      if flags.crlf then ⟨[(0x0A, 0x0A), (0x0D, 0x0D)]⟩ else ⟨[(0x0A, 0x0A)]⟩
    .ok ends.negation

/-- The set of a literal outside a class. -/
def Flags.literalSet (flags : Flags) (literal : Literal) : Fallible CharSet := do
  return flags.fold (.singleton (← flags.literal literal))

mutual

/-- The meaning of a node, and the flags in force after it: changes last to the end of the
enclosing group.
-/
def Node.meaning (flags : Flags) : Node → Fallible (Expr × Flags)
  | .empty => .ok (.nothing, flags)
  | .flags changes => .ok (.nothing, flags.apply changes)
  | .literal literal => do return (.one (← flags.literalSet literal), flags)
  | .dot => do return (.one (← flags.dot), flags)
  | .assertion assertion => .ok (.look (assertion.condition flags), flags)
  | .shorthand kind negated => do return (.one (← flags.shorthand kind negated), flags)
  | .property query negated => do return (.one (← flags.property query negated), flags)
  | .bracket negated set => do
      return (.one (← flags.complete negated (← set.members flags)), flags)
  | .repetition least most greedy body => do
      let (body, after) ← body.meaning flags
      return (.repeated least most (greedy != after.swapGreed) body, after)
  | .group changes capturing body => do
      let (body, _) ← body.meaning (flags.apply changes)
      return (if capturing then .capture body else body, flags)
  | .alternation branches => do
      let (branches, after) ← nodeMeanings flags branches
      return (.alt branches, after)
  | .concatenation parts => do
      let (parts, after) ← nodeMeanings flags parts
      return (.cat parts, after)

/-- The meanings of nodes in order, each under the flags that the one before leaves. -/
def nodeMeanings (flags : Flags) : List Node → Fallible (List Expr × Flags)
  | [] => .ok ([], flags)
  | node :: nodes => do
      let (expr, flags) ← node.meaning flags
      let (exprs, flags) ← nodeMeanings flags nodes
      return (expr :: exprs, flags)

end

end LineEditor.Pattern
