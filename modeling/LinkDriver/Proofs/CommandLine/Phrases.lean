import LinkDriver.Proofs.CommandLine.Reads
import LinkDriver.Proofs.CommandLine.Uses

/-!
# Phrases of the documented command line

A phrase is an operand, an option of the link with its value, or a flag of the link, written in one
of its spellings. Its constructors carry what makes the spelling a proper one. Read
`reads_phrases` first: the arguments of a list of phrases are read as one element for each phrase,
at the position where the phrase begins.
-/

namespace LinkDriver.CommandLine

/-! ## Parts -/

namespace Opt

/-- Whether an option gives a value to the link. -/
def isLinkValue : Opt → Bool
  | output | library | searchDir | sysroot | soname | dynamicLinker | wrap | portable | target
  | linker => true
  | _ => false

/-- Whether an option is a flag of the link. -/
def isLinkFlag : Opt → Bool
  | shared | symbolic | noSymbolic | static | dryRun | verbose => true
  | _ => false

/-- Whether an option may be given once only. -/
def isSingular : Opt → Bool
  | output | sysroot | soname | dynamicLinker => true
  | _ => false

theorem takesValue_of_isLinkValue {opt : Opt} (h : opt.isLinkValue = true) :
    opt.takesValue = true := by
  cases opt with
  | log | report | textReport | output | library | searchDir | sysroot | soname | dynamicLinker
  | wrap | portable | target | linker => rfl
  | help | verbose | version | shared | symbolic | noSymbolic | static | dryRun =>
      exact absurd h (by decide)

theorem takesValue_of_isLinkFlag {opt : Opt} (h : opt.isLinkFlag = true) :
    opt.takesValue = false := by
  cases opt with
  | help | verbose | version | shared | symbolic | noSymbolic | static | dryRun => rfl
  | log | report | textReport | output | library | searchDir | sysroot | soname | dynamicLinker
  | wrap | portable | target | linker => exact absurd h (by decide)

end Opt

/-- What a phrase says, whatever its spelling. -/
inductive Part where
  | operand (text : String)
  | value (opt : Opt) (text : String)
  | flag (opt : Opt)
  deriving DecidableEq, Repr

/-! ## Phrases -/

/-- A phrase: an operand that does not begin with a hyphen or is one alone, a flag, or an option
with its value in the next argument, behind an equals sign, or joined to a letter. An attached value
is not the end of the options, and a joined one is neither empty nor begins with an equals sign. -/
inductive Phrase where
  | operand (text : String) (plain : isOptionLike text = false)
  | flag (opt : Opt) (spelling : String) (link : opt.isLinkFlag = true)
      (spells : spelling ∈ opt.spellings)
  | separate (opt : Opt) (spelling value : String) (link : opt.isLinkValue = true)
      (spells : spelling ∈ opt.spellings) (plain : isOptionLike value = false)
  | assigned (opt : Opt) (spelling value : String) (link : opt.isLinkValue = true)
      (spells : spelling ∈ opt.spellings) (whole : value ≠ endOfOptions)
  | joined (opt : Opt) (letter : Char) (value : String) (link : opt.isLinkValue = true)
      (spells : ofLetter letter ∈ opt.spellings) (nonempty : value ≠ "")
      (unassigned : value.toList.head? ≠ some '=') (whole : value ≠ endOfOptions)

namespace Phrase

/-- The arguments of a phrase. -/
def tokens : Phrase → List String
  | operand text _ => [text]
  | flag _ spelling _ _ => [spelling]
  | separate _ spelling value _ _ _ => [spelling, value]
  | assigned _ spelling value _ _ _ => [spelling ++ "=" ++ value]
  | joined _ letter value _ _ _ _ _ => [ofLetter letter ++ value]

/-- What a phrase says. -/
def part : Phrase → Part
  | operand text _ => .operand text
  | flag opt _ _ _ => .flag opt
  | separate opt _ value _ _ _ => .value opt value
  | assigned opt _ value _ _ _ => .value opt value
  | joined opt _ value _ _ _ _ _ => .value opt value

/-- What a phrase at a position is read as. -/
def element (position : Nat) : Phrase → Element
  | operand text _ => .operand position text
  | flag opt _ _ _ => .use ⟨opt, position, false, .absent⟩
  | separate opt _ value _ _ _ => .use ⟨opt, position, false, .separate value⟩
  | assigned opt _ value _ _ _ => .use ⟨opt, position, false, .attached (.text value)⟩
  | joined opt _ value _ _ _ _ _ => .use ⟨opt, position, false, .attached (.text value)⟩

theorem classify_of_plain {text : String} (h : isOptionLike text = false) :
    classify text = .operand := by
  simp [classify, h]

theorem attachedValue_of_ne {text : String} (h : text ≠ endOfOptions) :
    attachedValue text = .text text :=
  if_neg h

/-- A phrase is one step of a reading. -/
theorem readsAs (phrase : Phrase) (position : Nat) :
    ReadsAs position phrase.tokens [phrase.element position] := by
  cases phrase with
  | operand text plain => exact .operand text (classify_of_plain plain)
  | flag opt spelling link spells =>
      have hsupplied := Supplied.absent (Opt.takesValue_of_isLinkFlag link)
      exact .single (classify_of_uses (.bare spells)) hsupplied
  | separate opt spelling value link spells plain =>
      have hsupplied := Supplied.separate value (Opt.takesValue_of_isLinkValue link)
        (classify_of_plain plain)
      exact .single (classify_of_uses (.bare spells)) hsupplied
  | assigned opt spelling value link spells whole =>
      have hsupplied := Supplied.attached value (Opt.takesValue_of_isLinkValue link)
      rw [attachedValue_of_ne whole] at hsupplied
      exact .single (classify_of_uses (.assigned value spells)) hsupplied
  | joined opt letter value link spells nonempty unassigned whole =>
      have hsupplied := Supplied.attached value (Opt.takesValue_of_isLinkValue link)
      rw [attachedValue_of_ne whole] at hsupplied
      exact .single (classify_of_uses (.joined spells nonempty unassigned)) hsupplied

/-- No argument of a phrase ends the options. -/
theorem endOfOptions_not_mem (phrase : Phrase) : endOfOptions ∉ phrase.tokens := by
  have hend : classify endOfOptions = .unknown := by decide
  have hplain : ∀ text, isOptionLike text = false → endOfOptions ≠ text := by
    rintro _ h rfl
    rw [classify_of_plain h] at hend
    exact absurd hend (by simp)
  have huse : ∀ text opt long attached, Uses text opt long attached → endOfOptions ≠ text := by
    rintro _ opt long attached h rfl
    rw [classify_of_uses h] at hend
    exact absurd hend (by simp)
  cases phrase with
  | operand text plain => simpa [tokens] using hplain text plain
  | flag opt spelling link spells => simpa [tokens] using huse _ _ _ _ (.bare spells)
  | separate opt spelling value link spells plain =>
      have hspelling := huse _ _ _ _ (.bare spells)
      simpa [tokens] using ⟨hspelling, hplain value plain⟩
  | assigned opt spelling value link spells whole =>
      simpa [tokens] using huse _ _ _ _ (.assigned value spells)
  | joined opt letter value link spells nonempty unassigned whole =>
      simpa [tokens] using huse _ _ _ _ (.joined spells nonempty unassigned)

end Phrase

/-! ## Lists of phrases -/

/-- The arguments of phrases. -/
def tokensOf (phrases : List Phrase) : List String :=
  phrases.flatMap Phrase.tokens

/-- What phrases say. -/
def partsOf (phrases : List Phrase) : List Part :=
  phrases.map Phrase.part

/-- What phrases are read as, the first of which begins at the given position. -/
def elementsOf : Nat → List Phrase → List Element
  | _, [] => []
  | position, phrase :: rest =>
    phrase.element position :: elementsOf (position + phrase.tokens.length) rest

/-- The arguments of phrases are read as one element for each phrase. -/
theorem reads_phrases (position : Nat) (phrases : List Phrase) :
    Reads position (tokensOf phrases) (elementsOf position phrases) := by
  induction phrases generalizing position with
  | nil => exact .nil position
  | cons phrase rest ih => exact .step (phrase.readsAs position) (ih _)

theorem endOfOptions_not_mem_tokensOf (phrases : List Phrase) :
    endOfOptions ∉ tokensOf phrases := by
  intro hmem
  obtain ⟨phrase, -, htokens⟩ := List.mem_flatMap.mp hmem
  exact phrase.endOfOptions_not_mem htokens

end LinkDriver.CommandLine
