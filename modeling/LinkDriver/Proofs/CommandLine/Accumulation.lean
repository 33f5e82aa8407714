import LinkDriver.Proofs.CommandLine.Parsed
import LinkDriver.Proofs.CommandLine.Phrases

/-!
# What phrases add up to

`argumentsOf` says what a list of parts asks for: the values of an option in their order, the last
one where only one counts, and whether a flag is there. Read `takeAll_phrases` first: taking the
occurrences of phrases one by one leads to these arguments, unless an option that may be given once
is repeated.
-/

namespace LinkDriver.CommandLine

/-! ## Definitions -/

namespace Part

/-- The text of an operand. -/
def operand? : Part → Option String
  | operand text => some text
  | _ => none

/-- The value that a part gives to an option. -/
def valueOf? (opt : Opt) : Part → Option String
  | value other text => if other = opt then some text else none
  | _ => none

/-- Whether a part is the flag. -/
def isFlag (opt : Opt) : Part → Bool
  | flag other => other = opt
  | _ => false

/-- How a part sets the binding of symbols. -/
def symbolic? : Part → Option Bool
  | flag .symbolic => some true
  | flag .noSymbolic => some false
  | _ => none

end Part

/-- The operands among parts. -/
def operandsOf (parts : List Part) : List String :=
  parts.filterMap Part.operand?

/-- The values that parts give to an option. -/
def valuesOf (opt : Opt) (parts : List Part) : List String :=
  parts.filterMap (Part.valueOf? opt)

/-- No option that may be given once is given more often. -/
def Singular (parts : List Part) : Prop :=
  ∀ opt : Opt, opt.isSingular = true → (valuesOf opt parts).length ≤ 1

/-- The arguments that parts ask for, with the given objects. -/
def argumentsOf (objects : List String) (parts : List Part) : Arguments where
  objects := objects
  libraries := (valuesOf .library parts).map .text
  searchDirs := (valuesOf .searchDir parts).map .text
  sysroot := (valuesOf .sysroot parts).getLast?.map .text
  soname := (valuesOf .soname parts).getLast?.map .text
  dynamicLinker := (valuesOf .dynamicLinker parts).getLast?.map .text
  shared := parts.any (Part.isFlag .shared)
  symbolic := (parts.filterMap Part.symbolic?).getLast?.getD true
  wraps := (valuesOf .wrap parts).map .text
  portables := (valuesOf .portable parts).map .text
  target := .text ((valuesOf .target parts).getLast?.getD defaultTarget)
  linker := .text ((valuesOf .linker parts).getLast?.getD Gnu.defaultProgram)
  static := parts.any (Part.isFlag .static)
  dryRun := parts.any (Part.isFlag .dryRun)
  log := some .info
  report := none
  textReport := none
  verbose := parts.countP (Part.isFlag .verbose)
  output := (valuesOf .output parts).getLast?.map .text

/-! ## One more part -/

@[simp] theorem valuesOf_concat_value (opt other : Opt) (parts : List Part) (text : String) :
    valuesOf opt (parts ++ [.value other text]) =
      valuesOf opt parts ++ if other = opt then [text] else [] := by
  by_cases hopt : other = opt <;> simp [valuesOf, Part.valueOf?, hopt]

@[simp] theorem valuesOf_concat_flag (opt other : Opt) (parts : List Part) :
    valuesOf opt (parts ++ [.flag other]) = valuesOf opt parts := by
  simp [valuesOf, Part.valueOf?]

@[simp] theorem valuesOf_concat_operand (opt : Opt) (parts : List Part) (text : String) :
    valuesOf opt (parts ++ [.operand text]) = valuesOf opt parts := by
  simp [valuesOf, Part.valueOf?]

/-- An operand says nothing about the other arguments. -/
theorem argumentsOf_concat_operand (objects : List String) (parts : List Part) (text : String) :
    argumentsOf objects (parts ++ [.operand text]) = argumentsOf objects parts := by
  simp [argumentsOf, Part.isFlag, Part.symbolic?]

/-- Fewer parts repeat fewer options. -/
theorem Singular.of_append {first second : List Part} (h : Singular (first ++ second)) :
    Singular first := by
  intro opt hopt
  have hlength := h opt hopt
  unfold valuesOf at hlength ⊢
  rw [List.filterMap_append, List.length_append] at hlength
  omega

theorem singular_concat_flag {parts : List Part} (h : Singular parts) (opt : Opt) :
    Singular (parts ++ [.flag opt]) := by
  intro other hother
  rw [valuesOf_concat_flag]
  exact h other hother

/-- One more value repeats an option exactly if that is singular and was given before. -/
theorem singular_concat_value_iff {parts : List Part} (h : Singular parts) {opt : Opt}
    {text : String} :
    Singular (parts ++ [.value opt text]) ↔
      (opt.isSingular = true → valuesOf opt parts = []) := by
  constructor
  · intro hall hopt
    have hlength := hall opt hopt
    rw [valuesOf_concat_value, if_pos rfl, List.length_append, List.length_singleton] at hlength
    exact List.eq_nil_of_length_eq_zero (by omega)
  · intro hnone other hother
    rw [valuesOf_concat_value]
    by_cases hopt : opt = other
    · subst hopt
      rw [if_pos rfl, hnone hother]
      simp
    · rw [if_neg hopt, List.append_nil]
      exact h other hother

/-! ## Taking parts -/

namespace Progress

variable {host : Host} {files : List (List String)} {parts : List Part}

/-- Taking a flag adds it to the parts. -/
theorem take_flag {occurrence : Occurrence} (hlink : occurrence.opt.isLinkFlag = true) :
    take ⟨host, files, argumentsOf [] parts⟩ occurrence =
      (⟨host, files, argumentsOf [] (parts ++ [.flag occurrence.opt])⟩, none) := by
  obtain ⟨opt, position, clustered, argument⟩ := occurrence
  replace hlink : opt.isLinkFlag = true := hlink
  cases opt with
  | shared | symbolic | noSymbolic | static | dryRun | verbose =>
      simp [take, update, argumentsOf, Part.isFlag, Part.symbolic?]
  | help | log | report | textReport | version | output | library | searchDir | sysroot | soname
  | dynamicLinker | wrap | portable | target | linker => exact absurd hlink (by decide)

/-- Taking a value adds it to the parts, unless its option is singular and was given before. -/
theorem take_value {occurrence : Occurrence} {text : String}
    (hlink : occurrence.opt.isLinkValue = true) (hvalue : occurrence.value = .text text)
    (hsingular : occurrence.opt.isSingular = true → valuesOf occurrence.opt parts = []) :
    take ⟨host, files, argumentsOf [] parts⟩ occurrence =
      (⟨host, files, argumentsOf [] (parts ++ [.value occurrence.opt text])⟩, none) := by
  unfold take
  rw [hvalue]
  obtain ⟨opt, position, clustered, argument⟩ := occurrence
  clear hvalue
  replace hlink : opt.isLinkValue = true := hlink
  cases opt with
  | output | sysroot | soname | dynamicLinker =>
      have hnone := hsingular rfl
      simp only at hnone
      simp [once, update, argumentsOf, Part.isFlag, Part.symbolic?, hnone]
  | library | searchDir | wrap | portable | target | linker =>
      simp [update, argumentsOf, Part.isFlag, Part.symbolic?]
  | help | log | report | textReport | verbose | version | shared | symbolic | noSymbolic | static
  | dryRun => exact absurd hlink (by decide)

/-- Taking a value of a singular option that was given before is rejected. -/
theorem take_repeated {occurrence : Occurrence} (hsingular : occurrence.opt.isSingular = true)
    (hgiven : valuesOf occurrence.opt parts ≠ []) :
    (take ⟨host, files, argumentsOf [] parts⟩ occurrence).2 =
      some (.rejected (.repeated occurrence.opt)) := by
  obtain ⟨opt, position, clustered, argument⟩ := occurrence
  replace hsingular : opt.isSingular = true := hsingular
  cases opt with
  | output | sysroot | soname | dynamicLinker =>
      simp only at hgiven
      simp [take, once, reject, argumentsOf, hgiven]
  | help | log | report | textReport | verbose | version | library | searchDir | shared | symbolic
  | noSymbolic | wrap | portable | target | linker | static | dryRun =>
      exact absurd hsingular (by decide)

/-- Taking a value adds it to the parts, or is rejected because it repeats a singular option. -/
theorem take_value_cases (hparts : Singular parts) {occurrence : Occurrence} {text : String}
    (hlink : occurrence.opt.isLinkValue = true) (hvalue : occurrence.value = .text text) :
    (Singular (parts ++ [.value occurrence.opt text]) ∧
      take ⟨host, files, argumentsOf [] parts⟩ occurrence =
        (⟨host, files, argumentsOf [] (parts ++ [.value occurrence.opt text])⟩, none)) ∨
    (¬ Singular (parts ++ [.value occurrence.opt text]) ∧
      ∃ exit, (take ⟨host, files, argumentsOf [] parts⟩ occurrence).2 = some exit) := by
  rw [singular_concat_value_iff hparts]
  by_cases hnone : occurrence.opt.isSingular = true → valuesOf occurrence.opt parts = []
  · left
    exact ⟨hnone, take_value hlink hvalue hnone⟩
  · right
    obtain ⟨hsingular, hgiven⟩ := Classical.not_imp.mp hnone
    exact ⟨hnone, _, take_repeated hsingular hgiven⟩

/-- Taking the occurrence of a phrase adds its part, or is rejected because the part repeats a
singular option. -/
theorem take_phrase (hparts : Singular parts) {phrase : Phrase} {position : Nat}
    {occurrence : Occurrence} (h : phrase.element position = .use occurrence) :
    (Singular (parts ++ [phrase.part]) ∧
      take ⟨host, files, argumentsOf [] parts⟩ occurrence =
        (⟨host, files, argumentsOf [] (parts ++ [phrase.part])⟩, none)) ∨
    (¬ Singular (parts ++ [phrase.part]) ∧
      ∃ exit, (take ⟨host, files, argumentsOf [] parts⟩ occurrence).2 = some exit) := by
  cases phrase with
  | operand text plain => exact absurd h (by simp [Phrase.element])
  | flag opt spelling link spells =>
      obtain rfl := Element.use.inj h
      exact Or.inl ⟨singular_concat_flag hparts opt, take_flag link⟩
  | separate opt spelling value link spells plain =>
      obtain rfl := Element.use.inj h
      have hvalue : Occurrence.value ⟨opt, position, false, .separate value⟩ = .text value := rfl
      exact take_value_cases hparts link hvalue
  | assigned opt spelling value link spells whole =>
      obtain rfl := Element.use.inj h
      have hvalue : Occurrence.value ⟨opt, position, false, .attached (.text value)⟩ =
        .text value := rfl
      exact take_value_cases hparts link hvalue
  | joined opt letter value link spells nonempty unassigned whole =>
      obtain rfl := Element.use.inj h
      have hvalue : Occurrence.value ⟨opt, position, false, .attached (.text value)⟩ =
        .text value := rfl
      exact take_value_cases hparts link hvalue

/-- Taking the occurrences of phrases leads to the arguments that their parts ask for, and is
rejected exactly if they repeat a singular option. -/
theorem takeAll_phrases (hparts : Singular parts) (position : Nat) (phrases : List Phrase) :
    (Singular (parts ++ partsOf phrases) →
      takeAll ⟨host, files, argumentsOf [] parts⟩
          (Reading.occurrences ⟨elementsOf position phrases, none⟩) =
        (⟨host, files, argumentsOf [] (parts ++ partsOf phrases)⟩, none)) ∧
    (¬ Singular (parts ++ partsOf phrases) →
      ∃ exit, (takeAll ⟨host, files, argumentsOf [] parts⟩
        (Reading.occurrences ⟨elementsOf position phrases, none⟩)).2 = some exit) := by
  -- The induction is over the phrases to come, for all parts that were taken before.
  induction phrases generalizing parts position with
  | nil =>
      rw [partsOf, List.map_nil, List.append_nil]
      exact ⟨fun _ => rfl, fun hrepeated => absurd hparts hrepeated⟩
  | cons phrase rest ih =>
      have hassoc : parts ++ partsOf (phrase :: rest) =
          (parts ++ [phrase.part]) ++ partsOf rest := by
        rw [List.append_assoc]
        rfl
      rw [hassoc]
      cases helement : phrase.element position with
      | unknown => cases phrase <;> exact absurd helement (by simp [Phrase.element])
      | operand place text =>
          have hpart : ∃ text, phrase.part = .operand text := by
            cases phrase with
            | operand text plain => exact ⟨text, rfl⟩
            | flag | separate | assigned | joined =>
                exact absurd helement (by simp [Phrase.element])
          obtain ⟨content, hcontent⟩ := hpart
          have hskip : Reading.occurrences ⟨elementsOf position (phrase :: rest), none⟩ =
              Reading.occurrences ⟨elementsOf (position + phrase.tokens.length) rest, none⟩ := by
            simp [Reading.occurrences, elementsOf, helement]
          have hsame : Singular (parts ++ [phrase.part]) := by
            intro opt hopt
            rw [hcontent, valuesOf_concat_operand]
            exact hparts opt hopt
          have hrest := ih hsame (position + phrase.tokens.length)
          rw [hskip]
          rwa [hcontent, argumentsOf_concat_operand, ← hcontent] at hrest
      | use occurrence =>
          have hnext : Reading.occurrences ⟨elementsOf position (phrase :: rest), none⟩ =
              occurrence ::
                Reading.occurrences ⟨elementsOf (position + phrase.tokens.length) rest, none⟩ := by
            simp [Reading.occurrences, elementsOf, helement]
          rw [hnext]
          unfold takeAll
          rcases take_phrase hparts helement with ⟨hsingular, htake⟩ | ⟨hrepeated, exit, hexit⟩
          · rw [htake]
            exact ih hsingular (position + phrase.tokens.length)
          · refine ⟨fun hall => absurd hall.of_append hrepeated, fun _ => ⟨exit, ?_⟩⟩
            split
            · rename_i taken htaken
              rw [htaken] at hexit
              exact absurd hexit (by simp)
            · exact hexit

end Progress

end LinkDriver.CommandLine
