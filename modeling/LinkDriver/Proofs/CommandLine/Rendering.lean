import LinkDriver.Proofs.CommandLine.Accumulation
import LinkDriver.Proofs.CommandLine.Order

/-!
# Parsing undoes rendering

`render` writes phrases as a command line, with an optional end of the options and what stands
behind it. Read `parse_render` first: whichever spellings are chosen, the command line is parsed
exactly if it has an object file and repeats no singular option, and then the link options are those
that the phrases say.
-/

namespace LinkDriver.CommandLine

/-! ## Definitions -/

/-- The command line of phrases, with an end of the options if something is said to stand behind
it. -/
def render (phrases : List Phrase) (behind : Option (List String)) : List String :=
  match behind with
  | none => tokensOf phrases
  | some paths => tokensOf phrases ++ endOfOptions :: paths

/-- The input that a part at a position names. -/
def Part.item? (position : Nat) : Part → Option Item
  | operand text => some (.object ⟨position, text⟩)
  | value .library name => some (.namespec ⟨position, .text name⟩)
  | _ => none

/-- The inputs of phrases, the first of which begins at the given position. -/
def itemsOf : Nat → List Phrase → List Item
  | _, [] => []
  | position, phrase :: rest =>
    (phrase.part.item? position).toList ++ itemsOf (position + phrase.tokens.length) rest

/-- The link options that phrases say, with object files behind the end of the options. -/
def optionsOf (phrases : List Phrase) (behind : List String) : LinkOptions where
  objects := some ((itemsOf 1 phrases).filterMap Item.object? ++
    objectsAt (List.range' ((tokensOf phrases).length + 2) behind.length) behind)
  namespecs := some ((itemsOf 1 phrases).filterMap Item.namespec?)
  output := some ((valuesOf .output (partsOf phrases)).getLast?.getD "")
  soname := some ((valuesOf .soname (partsOf phrases)).getLast?.getD "")
  sysroot := some ((valuesOf .sysroot (partsOf phrases)).getLast?.getD "")
  dynamicLinker := some ((valuesOf .dynamicLinker (partsOf phrases)).getLast?.getD "")
  wraps := some ((valuesOf .wrap (partsOf phrases)).map .text)
  portables := some ((valuesOf .portable (partsOf phrases)).map .text)
  searchDirs := some ((valuesOf .searchDir (partsOf phrases)).map .text)
  shared := (partsOf phrases).any (Part.isFlag .shared)
  symbolic := ((partsOf phrases).filterMap Part.symbolic?).getLast?.getD true
  targetTriple := some (.text ((valuesOf .target (partsOf phrases)).getLast?.getD defaultTarget))

variable (phrases : List Phrase) (behind : Option (List String))

/-! ## The parts of a rendered command line -/

/-- The end of the options is rendered where it was put. -/
theorem beforeEnd_render :
    beforeEnd (render phrases behind) = tokensOf phrases ∧
      behindEnd (render phrases behind) = behind.getD [] := by
  have hphrases := endOfOptions_not_mem_tokensOf phrases
  cases behind with
  | none => exact beforeEnd_of_not_mem hphrases
  | some paths => exact beforeEnd_append hphrases paths

theorem readingOf_render : readingOf (render phrases behind) = ⟨elementsOf 1 phrases, none⟩ := by
  rw [readingOf, (beforeEnd_render phrases behind).1]
  exact reads_iff.mp (reads_phrases 1 phrases)

/-! ## What a list of phrases is read as -/

theorem operands_elementsOf (position : Nat) :
    Reading.operands ⟨elementsOf position phrases, none⟩ = operandsOf (partsOf phrases) := by
  unfold Reading.operands operandsOf
  induction phrases generalizing position with
  | nil => rfl
  | cons phrase rest ih =>
      have hrest := ih (position + phrase.tokens.length)
      cases phrase with
      | operand text plain => exact congrArg (text :: ·) hrest
      | flag | separate | assigned | joined => exact hrest

/-- A list of phrases leaves nothing over. -/
theorem surplus_elementsOf (position : Nat) :
    Reading.surplus ⟨elementsOf position phrases, none⟩ = [] := by
  have hall : ∀ leftover ∈ Reading.leftovers ⟨elementsOf position phrases, none⟩,
      leftover.2 = true := by
    unfold Reading.leftovers
    induction phrases generalizing position with
    | nil => simp [elementsOf]
    | cons phrase rest ih =>
        have hrest := ih (position + phrase.tokens.length)
        cases phrase with
        | operand text plain =>
            intro leftover hmem
            rcases List.mem_cons.mp hmem with rfl | hmem
            · rfl
            · exact hrest leftover hmem
        | flag | separate | assigned | joined => exact hrest
  have hdropped : (Reading.leftovers ⟨elementsOf position phrases, none⟩ ++ []).dropWhile (·.2) =
      ([] : List (String × Bool)).dropWhile (·.2) := List.dropWhile_append_of_pos hall
  rw [List.append_nil, List.dropWhile_nil] at hdropped
  unfold Reading.surplus
  cases hleftovers : Reading.leftovers ⟨elementsOf position phrases, none⟩ with
  | nil => rfl
  | cons first rest =>
      rw [hleftovers] at hall hdropped
      have hfirst := hall first (List.mem_cons_self ..)
      rw [List.takeWhile_cons_of_neg (by simp [hfirst]),
        List.dropWhile_cons_of_neg (by simp [hfirst]), hdropped]
      rfl

/-- The reading of phrases has no cluster and no operand with a hyphen. -/
theorem counts_elementsOf (position : Nat) :
    Reading.dashedOperands ⟨elementsOf position phrases, none⟩ = 0 ∧
      Reading.clusteredValues ⟨elementsOf position phrases, none⟩ = 0 ∧
      Reading.clusteredLibraries ⟨elementsOf position phrases, none⟩ = 0 := by
  unfold Reading.dashedOperands Reading.clusteredValues Reading.clusteredLibraries
  induction phrases generalizing position with
  | nil => exact ⟨rfl, rfl, rfl⟩
  | cons phrase rest ih =>
      obtain ⟨hdashed, hvalues, hlibraries⟩ := ih (position + phrase.tokens.length)
      cases phrase <;> simp_all [elementsOf, Phrase.element]

/-- A phrase is read as the input that its part names. -/
theorem Phrase.input?_element (phrase : Phrase) (position : Nat) :
    (phrase.element position).input? = phrase.part.item? position := by
  cases phrase with
  | operand text plain => rfl
  | flag opt spelling link spells =>
      have hopt : opt ≠ .library := by
        intro heq
        subst heq
        exact absurd link (by decide)
      simp [element, part, Part.item?, hopt]
  | separate opt | assigned opt | joined opt => cases opt <;> rfl

theorem inputs_elementsOf (position : Nat) :
    Reading.inputs ⟨elementsOf position phrases, none⟩ = itemsOf position phrases := by
  unfold Reading.inputs
  induction phrases generalizing position with
  | nil => rfl
  | cons phrase rest ih =>
      unfold elementsOf itemsOf
      rw [List.filterMap_cons, phrase.input?_element, ih]
      cases phrase.part.item? position <;> rfl

/-- The inputs that a rendered command line names are those of the phrases, and what stands behind
the end of the options. -/
theorem filterMap_namedInputs_render :
    (namedInputs (render phrases behind)).filterMap Item.object? =
        (itemsOf 1 phrases).filterMap Item.object? ++
          objectsAt (List.range' ((tokensOf phrases).length + 2) (behind.getD []).length)
            (behind.getD []) ∧
      (namedInputs (render phrases behind)).filterMap Item.namespec? =
        (itemsOf 1 phrases).filterMap Item.namespec? := by
  have hbehind : objectsBehind (render phrases behind) =
      objectsAt (List.range' ((tokensOf phrases).length + 2) (behind.getD []).length)
        (behind.getD []) := by
    rw [objectsBehind, (beforeEnd_render phrases behind).1, (beforeEnd_render phrases behind).2]
  unfold namedInputs
  rw [readingOf_render, inputs_elementsOf, hbehind, List.filterMap_append, List.filterMap_append,
    List.filterMap_map, List.filterMap_map]
  constructor
  · exact congrArg (_ ++ ·) List.filterMap_some
  · simp [Function.comp_def, Item.namespec?]

/-! ## The round trip -/

/-- A rendered command line is accepted exactly if it has an object file and repeats no singular
option, and then its arguments are those that the parts ask for. -/
theorem acceptedAs_render_iff (host : Host) (arguments : Arguments) :
    AcceptedAs host (render phrases behind) arguments ↔
      operandsOf (partsOf phrases) ++ behind.getD [] ≠ [] ∧ Singular (partsOf phrases) ∧
        arguments = argumentsOf (operandsOf (partsOf phrases) ++ behind.getD [])
          (partsOf phrases) := by
  have hnothing : Singular [] := fun _ _ => Nat.zero_le 1
  obtain ⟨htaken, hrejected⟩ := @Progress.takeAll_phrases host [] [] hnothing 1 phrases
  have hreading := readingOf_render phrases behind
  have hoperands := operands_elementsOf phrases 1
  have hbehind := (beforeEnd_render phrases behind).2
  constructor
  · intro h
    obtain ⟨-, -, hobjects, hnonempty, progress, hprogress, harguments⟩ := h
    rw [hreading, hoperands, hbehind] at hobjects
    rw [hreading] at hprogress
    refine ⟨hobjects ▸ hnonempty, ?_⟩
    -- A repeated option would have ended the parse before its objects are looked at.
    by_cases hsingular : Singular (partsOf phrases)
    · have hsame : (progress, none) = _ := hprogress.symm.trans (htaken hsingular)
      obtain ⟨rfl, -⟩ := Prod.mk.inj hsame
      rw [hobjects] at harguments
      exact ⟨hsingular, harguments⟩
    · obtain ⟨exit, hexit⟩ := hrejected hsingular
      have hnone : some exit = none := hexit.symm.trans (congrArg Prod.snd hprogress)
      exact absurd hnone (by simp)
  · intro h
    obtain ⟨hnonempty, hsingular, rfl⟩ := h
    refine ⟨?_, ?_, ?_, hnonempty, ⟨host, [], argumentsOf [] (partsOf phrases)⟩, ?_, rfl⟩
    · rw [hreading]
    · rw [hreading]
      exact surplus_elementsOf phrases 1
    · rw [hreading, hoperands, hbehind]
      rfl
    · rw [hreading]
      exact htaken hsingular

/-- The link options of a rendered command line that is accepted. -/
theorem resolve_render {σ : Type} {host : Host} {arguments : Arguments}
    (h : AcceptedAs host (render phrases behind) arguments) (state : σ) :
    ((resolve arguments (render phrases behind)).run state).result =
      .ok (optionsOf phrases (behind.getD [])) := by
  obtain ⟨hdashed, hvalues, hlibraries⟩ := counts_elementsOf phrases 1
  have hreading := readingOf_render phrases behind
  rw [← hreading] at hdashed hvalues hlibraries
  obtain ⟨options, hoptions⟩ : ∃ options,
      ((resolve arguments (render phrases behind)).run state).result = .ok options := by
    refine ⟨_, resolve_eq_ok_iff.mpr ⟨h.length_objects_iff.mpr ?_, ?_, rfl⟩⟩
    · rw [hdashed, hvalues]
    · exact h.length_libraries_iff.mpr hlibraries
  have hobjects := h.objects_eq_named hoptions hdashed
  have hnamespecs := h.namespecs_eq_named hoptions
  rw [(filterMap_namedInputs_render phrases behind).1] at hobjects
  rw [(filterMap_namedInputs_render phrases behind).2] at hnamespecs
  obtain ⟨-, -, harguments⟩ := (acceptedAs_render_iff phrases behind host arguments).mp h
  obtain ⟨-, -, hlink⟩ := resolve_eq_ok_iff.mp hoptions
  rw [hlink] at hobjects hnamespecs
  have htexts : ∀ values : List String,
      ((values.getLast?.map Value.text).map Value.textOrEmpty).getD "" =
        values.getLast?.getD "" := by
    intro values
    cases values.getLast? <;> rfl
  rw [hoptions, hlink, Option.some.inj hobjects, Option.some.inj hnamespecs, harguments]
  simp only [linkOptions, optionsOf, argumentsOf, htexts]

/-- Whichever spellings are chosen, a rendered command line is parsed exactly if it has an object
file and repeats no singular option. The arguments are then those that the parts ask for, and they
are resolved into the link options that the phrases say. -/
theorem parse_render {σ : Type} (host : Host) (state : σ) :
    ((∃ arguments, (parse host (render phrases behind)).result = .ok arguments) ↔
      operandsOf (partsOf phrases) ++ behind.getD [] ≠ [] ∧ Singular (partsOf phrases)) ∧
    ∀ arguments, (parse host (render phrases behind)).result = .ok arguments →
      arguments = argumentsOf (operandsOf (partsOf phrases) ++ behind.getD [])
          (partsOf phrases) ∧
        ((resolve arguments (render phrases behind)).run state).result =
          .ok (optionsOf phrases (behind.getD [])) := by
  have hiff := acceptedAs_render_iff phrases behind host
  constructor
  · constructor
    · intro h
      obtain ⟨arguments, hparse⟩ := h
      obtain ⟨hnonempty, hsingular, -⟩ := (hiff arguments).mp (parse_eq_ok_iff.mp hparse)
      exact ⟨hnonempty, hsingular⟩
    · intro h
      obtain ⟨hnonempty, hsingular⟩ := h
      exact ⟨_, parse_eq_ok_iff.mpr ((hiff _).mpr ⟨hnonempty, hsingular, rfl⟩)⟩
  · intro arguments hparse
    have haccepted := parse_eq_ok_iff.mp hparse
    obtain ⟨-, -, harguments⟩ := (hiff arguments).mp haccepted
    exact ⟨harguments, resolve_render phrases behind haccepted state⟩

/-- Phrases in all spellings. -/
def mixedPhrases : List Phrase :=
  [.separate .output "-o" "out" rfl (by decide) rfl,
    .joined .library 'l' "m" rfl (by decide) (by decide) (by decide) (by decide),
    .operand "a.o" rfl,
    .flag .verbose "-v" rfl (by decide),
    .assigned .soname "--soname" "x" rfl (by decide) (by decide)]

/-- Mixed spellings, with an object file behind the end of the options. -/
theorem parse_render_mixed :
    ∃ arguments options,
      (parse (Host.new (some "/work"))
          ["-o", "out", "-lm", "a.o", "-v", "--soname=x", "--", "-z"]).result = .ok arguments ∧
        ((resolve arguments
            ["-o", "out", "-lm", "a.o", "-v", "--soname=x", "--", "-z"]).run ()).result =
          .ok options ∧
        options.objects = some [⟨4, "a.o"⟩, ⟨8, "-z"⟩] ∧
        options.namespecs = some [⟨3, .text "m"⟩] ∧
        options.output = some "out" ∧ options.soname = some "x" := by
  have hline : render mixedPhrases (some ["-z"]) =
      ["-o", "out", "-lm", "a.o", "-v", "--soname=x", "--", "-z"] := by decide +kernel
  have hnonempty : operandsOf (partsOf mixedPhrases) ++ ["-z"] ≠ [] := by decide +kernel
  have hsingular : Singular (partsOf mixedPhrases) := by
    intro opt hopt
    cases opt with
    | output | sysroot | soname | dynamicLinker => decide +kernel
    | help | log | report | textReport | verbose | version | library | searchDir | shared | symbolic
    | noSymbolic | wrap | portable | target | linker | static | dryRun =>
        exact absurd hopt (by decide)
  obtain ⟨hparsed, hresolved⟩ :=
    parse_render mixedPhrases (some ["-z"]) (Host.new (some "/work")) ()
  rw [hline] at hparsed hresolved
  obtain ⟨arguments, hparse⟩ := hparsed.mpr ⟨hnonempty, hsingular⟩
  have hresult := (hresolved arguments hparse).2
  refine ⟨arguments, _, hparse, hresult, ?_, ?_, ?_, ?_⟩ <;> decide +kernel

end LinkDriver.CommandLine
