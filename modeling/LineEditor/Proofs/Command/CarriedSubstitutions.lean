import LineEditor.Proofs.Command.WrittenOptions
import LineEditor.Proofs.Text.Fields

/-! Substitutions that a delimiter can carry. Behind escapes every clean pattern and every clean
replacement passes through both cuts and comes out as it was, so that what is read does not depend
on the delimiter.
-/

namespace LineEditor

open Text (Field allBlank escape isClean)

----------------------------------------------------------------------------------------
-- Arguments
----------------------------------------------------------------------------------------

namespace SubstituteArguments

/-- The arguments as they are written behind their first delimiter. -/
def written (arguments : SubstituteArguments) (delimiter : Char) : List Char :=
  escape delimiter arguments.pattern
    ++ delimiter :: (escape delimiter arguments.replacement ++ delimiter :: arguments.options)

/-- The delimiter can carry the arguments. A delimiter with a meaning in patterns keeps its escapes
there, so that the pattern must not hold it, and a lone percent sign would stand for the last
replacement.
-/
structure Carried (arguments : SubstituteArguments) (delimiter : Char) : Prop where
  simple : delimiter ≠ '\\'
  pattern : isClean delimiter arguments.pattern = true
  absent : Pattern.isMeta delimiter = true → delimiter ∉ arguments.pattern
  replacement : isClean delimiter arguments.replacement = true
  other : escape delimiter arguments.replacement ≠ ['%']

variable {arguments : SubstituteArguments} {delimiter : Char}

/-- Arguments that the delimiter carries are cut where they were joined. -/
theorem cut_written (carried : arguments.Carried delimiter)
    (asks : allBlank arguments.options = false)
    : cut delimiter (arguments.written delimiter)
      = ⟨arguments.pattern, escape delimiter arguments.replacement, arguments.options⟩ := by
  have body : patternBody delimiter (escape delimiter arguments.pattern) = arguments.pattern := by
    unfold patternBody
    by_cases special : Pattern.isMeta delimiter = true
    · rw [if_pos special, Text.escape_eq_self (carried.absent special)]
    · rw [if_neg special, Text.unescape_escape carried.simple]
  simp only [cut, written,
    Field.cut_of_holds carried.simple (Field.holds_escape carried.simple carried.pattern),
    Field.cut_of_holds carried.simple (Field.holds_escape carried.simple carried.replacement),
    body, asks]
  rfl

end SubstituteArguments

theorem Pattern.source_of_compile {ignoreCase : Bool} {source : String} {pattern : Pattern}
    (compiles : compile ignoreCase source = .ok pattern)
    : pattern.source = source := by
  obtain ⟨expr, _, fits⟩ := bind_eq_ok_iff.mp compiles
  split at fits
  · obtain rfl := Except.ok.inj fits
    rfl
  · cases fits

namespace Context

variable {context : Context} {arguments : SubstituteArguments} {compiled : Pattern}

/-- A substitution carries any pattern that compiles, any replacement and any options, through any
delimiter that can carry them: the pattern, the replacement and the options are read and
remembered as they were before the escapes. None of this depends on the delimiter.
-/
theorem readSubstitution_written
    (compiles
      : Pattern.compile context.ignoreCase (String.ofList arguments.pattern) = .ok compiled)
    (filled : arguments.pattern ≠ []) (asks : allBlank arguments.options = false)
    (known : ∀ letter ∈ arguments.options, SubstituteOptions.IsLetter letter)
    : compiled.source = String.ofList arguments.pattern
      ∧ ∃ options,
          SubstituteOptions.Asked arguments.options options
          ∧ ∀ delimiter,
              arguments.Carried delimiter
              → context.readSubstitution (delimiter :: arguments.written delimiter)
                = .ok
                  (⟨compiled, String.ofList arguments.replacement, options⟩,
                    { search := some compiled
                      replacement := some (String.ofList arguments.replacement)
                      options := some (String.ofList arguments.options) }) := by
  obtain ⟨options, read, asked⟩ := SubstituteOptions.asked_nil.foldlM_add known
  refine ⟨Pattern.source_of_compile compiles, options, asked, fun delimiter carried => ?_⟩
  have pattern : context.pattern arguments.pattern = .ok compiled := by
    rw [Context.pattern, if_neg (by simpa using filled), compiles]
  have replacement
      : context.replacement delimiter (escape delimiter arguments.replacement)
        = .ok (String.ofList arguments.replacement) := by
    rw [Context.replacement, if_neg carried.other, Text.unescape_escape carried.simple]
  simp only [readSubstitution, SubstituteArguments.cut_written carried asks, pattern, replacement,
    SubstituteOptions.read, read]
  rfl

/-- A slash is replaced by another one behind a percent sign. Between slashes this takes escapes,
between commas it takes none, and both are read alike.
-/
theorem readSubstitution_written_between_slashes
    : ∃ substitution memory,
        ({} : Context).readSubstitution "/\\//%\\//2 g".toList = .ok (substitution, memory)
        ∧ ({} : Context).readSubstitution ",/,%/,2 g".toList = .ok (substitution, memory)
        ∧ substitution.pattern.source = "/"
        ∧ substitution.replacement = "%/"
        ∧ SubstituteOptions.Asked "2 g".toList substitution.options
        ∧ memory.options = some "2 g" := by
  let arguments : SubstituteArguments := ⟨['/'], "%/".toList, "2 g".toList⟩
  let pattern : Pattern := ⟨"/", ⟨#[.accept, .one ⟨[(47, 47)]⟩ 0], 1⟩⟩
  have compiles
      : Pattern.compile ({} : Context).ignoreCase (String.ofList arguments.pattern)
        = .ok pattern := by
    decide +kernel
  have known : ∀ letter ∈ arguments.options, SubstituteOptions.IsLetter letter := by
    intro letter member
    obtain rfl | rfl | rfl : letter = '2' ∨ letter = ' ' ∨ letter = 'g' := by
      simpa [arguments] using member
    · exact Or.inr (Or.inr (Or.inl (by decide)))
    · exact Or.inr (Or.inr (Or.inr rfl))
    · exact Or.inl rfl
  have slashes : arguments.Carried '/' := by
    constructor <;> decide +kernel
  have commas : arguments.Carried ',' := by
    constructor <;> decide +kernel
  obtain ⟨source, options, asked, reads⟩ :=
    readSubstitution_written compiles (by decide) (by decide +kernel) known
  exact ⟨_, _, reads '/' slashes, reads ',' commas, source, rfl, asked, rfl⟩

end Context

end LineEditor
