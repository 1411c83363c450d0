import LineEditor.Command.Address

/-! Substitution: which matches of a pattern are replaced, by what, and how that is written. -/

namespace LineEditor

open Text (Field allBlank isBlank unescape)

/-- What a substitution does with the matches of a line: bit `k` of `chosen` stands for the
match of index `k`.
-/
structure SubstituteOptions where
  all : Bool := false
  print : Bool := false
  chosen : BitVec 9 := 0
  deriving DecidableEq, Repr

namespace SubstituteOptions

/-- The options of a substitution that writes none: the first match, and print the line. -/
def default : String := "1p"

/-- Adds what one letter asks for. -/
def add (options : SubstituteOptions) (letter : Char)
    : Except EditError SubstituteOptions :=
  if letter = 'g' then .ok { options with all := true }
  else if letter = 'p' then .ok { options with print := true }
  else if '1' ≤ letter && letter ≤ '9' then
    .ok { options with
          chosen := options.chosen ||| BitVec.twoPow 9 (letter.toNat - '1'.toNat) }
  else if isBlank letter then .ok options
  else .error (.unrecognized (.unknownOption letter))

/-- Reads options letter by letter; blanks mean nothing. -/
def read (text : List Char) : Except EditError SubstituteOptions :=
  text.foldlM add {}

/-- The match of an index is replaced. -/
def selects (options : SubstituteOptions) (index : Nat) : Bool :=
  options.all || options.chosen.getLsbD index

end SubstituteOptions

/-- A substitution that can be applied to lines. -/
structure Substitution where
  pattern : Pattern
  replacement : String
  options : SubstituteOptions
  deriving DecidableEq, Repr

namespace Substitution

/-- Puts a line together from its pieces, with the selected matches replaced. -/
def rebuild (substitution : Substitution) (pieces : Pattern.Pieces) : List Char :=
  (pieces.hits.zipIdx.flatMap fun (hit, index) =>
    hit.gap ++
      if substitution.options.selects index then substitution.replacement.toList
      else hit.text) ++ pieces.tail

/-- The line after substitution; a line without a match has none. -/
def apply (substitution : Substitution) (line : String) : Option String :=
  let pieces := substitution.pattern.cut line
  if pieces.hits.isEmpty then none
  else some (String.ofList (substitution.rebuild pieces))

end Substitution

/-- The arguments of a substitution as written, before the memory is asked. -/
structure SubstituteArguments where
  pattern : List Char
  replacement : List Char
  options : List Char
  deriving DecidableEq, Repr

/-- Splits the arguments after their delimiter. A missing replacement is empty, and missing or
blank options are the default ones.
-/
def SubstituteArguments.cut (delimiter : Char) (text : List Char) : SubstituteArguments :=
  let pattern := Field.cut delimiter text
  let replacement := Field.cut delimiter pattern.rest
  ⟨patternBody delimiter pattern.body, replacement.body,
    if replacement.closed && !allBlank replacement.rest then replacement.rest
    else SubstituteOptions.default.toList⟩

namespace Context

/-- The replacement that a written one means: a lone percent sign is the last one. -/
def replacement (context : Context) (delimiter : Char) (written : List Char)
    : Except EditError String :=
  if written = ['%'] then
    match context.memory.replacement with
    | some replacement => .ok replacement
    | none => .error .noPriorReplacement
  else .ok (String.ofList (unescape delimiter written))

/-- The last substitution again. -/
def repeatSubstitution (context : Context) : Except EditError Substitution := do
  match context.memory.search, context.memory.replacement with
  | none, _ => .error .noPriorPattern
  | some _, none => .error .noPriorReplacement
  | some pattern, some replacement =>
      let options ← SubstituteOptions.read
        (context.memory.options.getD SubstituteOptions.default).toList
      return ⟨pattern, replacement, options⟩

/-- Reads a substitution from the text after its letter, with the memory that it leaves; an
error leaves the memory as it was. Without text the last substitution is repeated.
-/
def readSubstitution (context : Context) (text : List Char)
    : Except EditError (Substitution × Memory) :=
  match text with
  | [] => do return (← context.repeatSubstitution, context.memory)
  | delimiter :: text => do
      let arguments := SubstituteArguments.cut delimiter text
      let pattern ← context.pattern arguments.pattern
      let replacement ← context.replacement delimiter arguments.replacement
      let options ← SubstituteOptions.read arguments.options
      return (⟨pattern, replacement, options⟩,
        context.memory.keepSubstitution pattern replacement (String.ofList arguments.options))

end Context

end LineEditor
