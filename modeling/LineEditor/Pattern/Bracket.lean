import LineEditor.Pattern.Escape

/-! Reading of bracket expressions, with their ranges, named classes, nesting and set operators. -/

namespace LineEditor.Pattern

/-- The class with a name. -/
def AsciiClass.named (name : List Char) : Option AsciiClass :=
  [("alnum", AsciiClass.alnum), ("alpha", .alpha), ("ascii", .ascii), ("blank", .blank),
    ("cntrl", .cntrl), ("digit", .digit), ("graph", .graph), ("lower", .lower),
    ("print", .print), ("punct", .punct), ("space", .space), ("upper", .upper),
    ("word", .word), ("xdigit", .xdigit)].findSome? fun (known, kind) =>
      if known.toList = name then some kind else none

/-- Reads a named class after its opening bracket. Text of any other form is none, so that the
bracket opens a nested expression.
-/
def readAsciiClass (text : List Char) : Option (ClassItem × List Char) :=
  match text with
  | ':' :: text =>
      let (negated, text) :=
        match text with
        | '^' :: rest => (true, rest)
        | _ => (false, text)
      match text.span (· != ':') with
      | (name, ':' :: ']' :: rest) =>
          (AsciiClass.named name).map fun kind => (.ascii kind negated, rest)
      | _ => none
  | _ => none

/-- Reads one member or end of a range. -/
def readClassPart (verbose : Bool) (text : List Char) : Fallible (Node × List Char) :=
  match text with
  | [] => .error .classUnclosed
  | '\\' :: rest => readEscape verbose rest
  | c :: rest => .ok (.character c, rest)

/-- The member that a part stands for; assertions cannot be members. -/
def Node.classItem : Node → Fallible ClassItem
  | .literal spelled => .ok (.literal spelled)
  | .shorthand kind negated => .ok (.shorthand kind negated)
  | .property query negated => .ok (.property query negated)
  | _ => .error .classEscape

/-- The character that a part stands for as an end of a range. -/
def Node.rangeEnd : Node → Fallible Literal
  | .literal spelled => .ok spelled
  | _ => .error .classRangeBoundary

/-- Reads a member or a range. A hyphen makes a range unless the bracket's end or another
hyphen follows it.
-/
def readClassItem (verbose : Bool) (text : List Char) : Fallible (ClassItem × List Char) := do
  let (first, text) ← readClassPart verbose text
  match skip verbose text with
  | [] => .error .classUnclosed
  | '-' :: rest =>
      let next := peekPast verbose rest
      if next = some ']' || next = some '-' then
        return (← first.classItem, '-' :: rest)
      else
        let (last, text) ← readClassPart verbose (skip verbose rest)
        let lo ← first.rangeEnd
        let hi ← last.rangeEnd
        if lo.char.toNat ≤ hi.char.toNat then return (.range lo hi, text)
        else .error .classRangeOrder
  | text => return (← first.classItem, text)

/-- An open bracket expression: the members read since the last operator, last first, and the
operator with its left operand.
-/
structure OpenBracket where
  negated : Bool
  items : List ClassItem
  pending : Option (SetOperator × ClassSet)

namespace OpenBracket

/-- Adds a member. -/
def push (bracket : OpenBracket) (item : ClassItem) : OpenBracket :=
  { bracket with items := item :: bracket.items }

/-- The set read so far; operators bind to the left. -/
def set (bracket : OpenBracket) : ClassSet :=
  let right := ClassSet.union bracket.items.reverse
  match bracket.pending with
  | none => right
  | some (operator, left) => .combine operator left right

/-- Puts what was read so far to the left of an operator. -/
def operate (bracket : OpenBracket) (operator : SetOperator) : OpenBracket :=
  { bracket with items := [], pending := some (operator, bracket.set) }

end OpenBracket

/-- Reads the start of a bracket expression after its bracket: the negation, then hyphens, or
a closing bracket that is first and so a member.
-/
def readBracketStart (verbose : Bool) (text : List Char) : Fallible (OpenBracket × List Char) :=
  let member (c : Char) : ClassItem := .literal ⟨c, false⟩
  let (negated, text) :=
    match skip verbose text with
    | '^' :: rest => (true, skip verbose rest)
    | text => (false, text)
  let (hyphens, text) := readRun verbose (· == '-') text
  let opened (items : List ClassItem) (text : List Char) : Fallible (OpenBracket × List Char) :=
    if text.isEmpty then .error .classUnclosed else .ok (⟨negated, items, none⟩, text)
  match hyphens, text with
  | [], ']' :: rest => opened [member ']'] (skip verbose rest)
  | _, _ => opened (hyphens.map member) text

/-- Reads the inside of an open bracket expression up to the bracket that closes the outermost
one. Each turn takes a character, so that the length of the text bounds the turns.
-/
def readBracketBody (verbose : Bool)
    : Nat → OpenBracket → List OpenBracket → List Char → Fallible (Node × List Char)
  | 0, _, _, _ => .error .classUnclosed
  | turns + 1, current, outer, text =>
      match skip verbose text with
      | [] => .error .classUnclosed
      | '[' :: rest =>
          match readAsciiClass rest with
          | some (item, rest) =>
              readBracketBody verbose turns (current.push item) outer rest
          | none => do
              let (inner, rest) ← readBracketStart verbose rest
              readBracketBody verbose turns inner (current :: outer) rest
      | ']' :: rest =>
          match outer with
          | [] => .ok (.bracket current.negated current.set, rest)
          | parent :: outer =>
              readBracketBody verbose turns
                (parent.push (.nested current.negated current.set)) outer rest
      | '&' :: '&' :: rest =>
          readBracketBody verbose turns (current.operate .inter) outer rest
      | '-' :: '-' :: rest =>
          readBracketBody verbose turns (current.operate .diff) outer rest
      | '~' :: '~' :: rest =>
          readBracketBody verbose turns (current.operate .symmDiff) outer rest
      | text => do
          let (item, rest) ← readClassItem verbose text
          readBracketBody verbose turns (current.push item) outer rest

/-- Reads a bracket expression after its opening bracket. -/
def readBracket (verbose : Bool) (text : List Char) : Fallible (Node × List Char) := do
  let (current, text) ← readBracketStart verbose text
  readBracketBody verbose (text.length + 1) current [] text

end LineEditor.Pattern
