import LinkDriver.Proofs.CommandLine.Rejection

/-!
# Where the namespecs stand

Every namespec of an accepted command line has the position of its own argument. Read
`namespecs_stand_at_their_arguments` first. The reading gives each library the position of the
argument that it was read from (`Reads.library_at`), and the scan gives the namespecs the positions
of the libraries that are in no cluster. Both counts agree on an accepted command line, so that no
library is in a cluster, and the two lists of positions are one.
-/

namespace LinkDriver.CommandLine

/-! ## Libraries -/

/-- `LibraryAt arguments index name` says the argument at `index` gives the library `name`: it is
the flag with the name behind it, or the flag and the name in one, or these with an equals sign
between them. -/
inductive LibraryAt (arguments : List String) (index : Nat) (name : String) : Prop where
  | separate : arguments[index]? = some libraryFlag → arguments[index + 1]? = some name →
      LibraryAt arguments index name
  | joined : arguments[index]? = some (libraryFlag ++ name) → name ≠ "" →
      name.toList.head? ≠ some '=' → LibraryAt arguments index name
  | assigned : arguments[index]? = some (libraryFlag ++ "=" ++ name) →
      LibraryAt arguments index name

namespace LibraryAt

variable {arguments rest : List String} {index : Nat} {name : String}

theorem index_lt (h : LibraryAt arguments index name) : index < arguments.length := by
  cases h with
  | separate hflag | joined hflag | assigned hflag =>
      obtain ⟨hlt, -⟩ := List.getElem?_eq_some_iff.mp hflag
      exact hlt

/-- Where more arguments follow, a library stays where it is. -/
theorem of_longer (h : LibraryAt arguments index name) (hbegins : arguments <+: rest) :
    LibraryAt rest index name := by
  cases h with
  | separate hflag hname =>
      exact .separate (getElem?_of_begins hbegins hflag) (getElem?_of_begins hbegins hname)
  | joined hflag hname hhead => exact .joined (getElem?_of_begins hbegins hflag) hname hhead
  | assigned hflag => exact .assigned (getElem?_of_begins hbegins hflag)

end LibraryAt

/-- The spelling of the library option. -/
theorem eq_libraryFlag {spelling : String} (h : spelling ∈ Opt.library.spellings) :
    spelling = libraryFlag := by
  simpa [Opt.spellings, libraryFlag] using h

/-- A use of the library option with a text attached is one of two forms. -/
theorem LibraryAt.of_uses {arguments : List String} {index : Nat} {text name : String}
    {long : Bool} (huses : Uses text .library long (some name))
    (htext : arguments[index]? = some text) : LibraryAt arguments index name := by
  cases huses with
  | assigned value hmem =>
      rw [eq_libraryFlag hmem] at htext
      exact .assigned htext
  | joined hmem hname hhead =>
      rw [eq_libraryFlag hmem] at htext
      exact .joined htext hname hhead

/-- A library that is in no cluster stands at its position. -/
theorem Reads.library_at {position : Nat} {tokens : List String} {elements : List Element}
    (h : Reads position tokens elements) {occurrence : Occurrence}
    (hmem : .use occurrence ∈ elements) (hopt : occurrence.opt = .library)
    (hclustered : occurrence.clustered = false) (hblank : occurrence.argument ≠ .attached .blank) :
    ∃ index name, occurrence.position = position + index ∧ occurrence.value = .text name ∧
      LibraryAt tokens index name := by
  obtain ⟨index, group, found, hbegins, hstep, hfound⟩ := h.step_of_mem hmem
  cases hstep with
  | operand | unknown => simp at hfound
  | @cluster text run first =>
      rename_i hclass hcluster hnone hsupplied
      -- The first option of a cluster is a flag, all others are marked as clustered.
      exfalso
      rcases mem_cluster_iff.mp hfound with hstart | ⟨flag, -, hother⟩ | hlast
      · obtain rfl := Element.use.inj hstart
        have hfirst : first = .library := hopt
        have hflag := hnone first (List.mem_cons_self ..)
        rw [hfirst] at hflag
        exact absurd hflag (by decide)
      · obtain rfl := Element.use.inj hother
        exact absurd hclustered (by simp)
      · obtain rfl := Element.use.inj hlast
        exact absurd hclustered (by simp)
  | @single text opt long attached separate argument hclass hsupplied =>
      obtain rfl : occurrence = ⟨opt, position + index, false, argument⟩ := by simpa using hfound
      obtain rfl : opt = .library := hopt
      have htext : tokens[index]? = some text := by
        simpa using getElem?_of_prefix_drop hbegins 0 (by simp)
      cases hsupplied with
      | absent hnone => exact absurd hnone (by decide)
      | attached content hvalue =>
          have hcontent : attachedValue content = .text content := by
            unfold attachedValue at hblank ⊢
            split
            · rename_i hend
              exact absurd (by simp [hend]) hblank
            · rfl
          refine ⟨index, content, rfl, by simp [Occurrence.value, hcontent], ?_⟩
          exact .of_uses (uses_of_classify hclass) htext
      | separate value hvalue hoperand =>
          refine ⟨index, value, rfl, rfl, .separate ?_ ?_⟩
          · cases uses_of_classify hclass with
            | bare hspelling => rw [htext, eq_libraryFlag hspelling]
          · simpa using getElem?_of_prefix_drop hbegins 1 (by simp)

/-! ## The scan and the reading -/

/-- Where no library is in a cluster, the scan finds the libraries of the reading. -/
theorem scannedLibraries_eq {reading : Reading} (h : reading.clusteredLibraries = 0) :
    reading.elements.filterMap Element.scannedLibrary? =
      reading.libraries.map Occurrence.position := by
  obtain ⟨elements, complaint⟩ := reading
  have hnone := List.countP_eq_zero.mp h
  simp only [Reading.libraries, Reading.occurrences]
  clear h
  induction elements with
  | nil => rfl
  | cons element rest ih =>
      have hrest := ih fun element hmem => hnone element (List.mem_cons_of_mem _ hmem)
      cases element with
      | operand | unknown => exact hrest
      | use occurrence =>
          have hfree := hnone (.use occurrence) (List.mem_cons_self ..)
          by_cases hopt : occurrence.opt = .library
          · have hclustered : occurrence.clustered = false := by simpa [hopt] using hfree
            simpa [hopt, hclustered] using hrest
          · simpa [hopt] using hrest

/-- The namespecs at the positions of some occurrences. -/
theorem namespecsAt_map (occurrences : List Occurrence) :
    namespecsAt (occurrences.map Occurrence.position) (occurrences.map Occurrence.value) =
      occurrences.map fun occurrence => ⟨occurrence.position, occurrence.value⟩ := by
  unfold namespecsAt
  rw [List.zipWith_map, List.zipWith_self]

/-- The namespecs of an accepted command line are the libraries that were read, in their order, and
none of them is in a cluster. -/
theorem AcceptedAs.namespecs_eq {σ : Type} {host : Host} {commandLine : List String}
    {arguments : Arguments} (h : AcceptedAs host commandLine arguments) {state : σ}
    {options : LinkOptions}
    (hresolve : ((resolve arguments commandLine).run state).result = .ok options) :
    (readingOf commandLine).clusteredLibraries = 0 ∧
      options.namespecs = some ((readingOf commandLine).libraries.map fun occurrence =>
        ⟨occurrence.position, occurrence.value⟩) := by
  obtain ⟨-, hlibraries, rfl⟩ := resolve_eq_ok_iff.mp hresolve
  have hnone := h.length_libraries_iff.mp hlibraries
  refine ⟨hnone, ?_⟩
  rw [← namespecsAt_map, ← scannedLibraries_eq hnone, ← (positions_eq h.complaint).2,
    ← h.libraries_eq]
  rfl

/-! ## The positions of the namespecs -/

/-- The end of the options stands behind everything that is read before it. -/
theorem lt_of_endOfOptions {commandLine : List String} {index last : Nat}
    (hindex : index < (beforeEnd commandLine).length)
    (hlast : commandLine[last]? = some endOfOptions) : index < last := by
  refine Nat.lt_of_lt_of_le hindex (Nat.le_of_not_lt ?_)
  intro hlt
  apply endOfOptions_not_mem_beforeEnd commandLine
  have hsame := getElem?_of_begins (beforeEnd_begins commandLine) (List.getElem?_eq_getElem hlt)
  rw [hlast, Option.some.injEq] at hsame
  rw [hsame]
  exact List.getElem_mem hlt

/-- The namespecs of an accepted command line to which no blank is attached are the libraries that
were read, in their order. Each has the position of the argument that gives it, before the end of
the options. -/
theorem namespecs_stand_at_their_arguments {σ : Type} {host : Host} {commandLine : List String}
    {arguments : Arguments} (hparse : (parse host commandLine).result = .ok arguments)
    (hblank : (readingOf commandLine).NoBlank) (state : σ) {options : LinkOptions}
    (hresolve : ((resolve arguments commandLine).run state).result = .ok options) :
    ∃ namespecs, options.namespecs = some namespecs ∧
      namespecs = ((readingOf commandLine).libraries.map fun occurrence =>
        ⟨occurrence.position, occurrence.value⟩) ∧
      namespecs.map NameSpec.name = arguments.libraries ∧
      ∀ namespec ∈ namespecs, ∃ (index : Nat) (name : String),
        namespec = ⟨index + 1, .text name⟩ ∧ LibraryAt commandLine index name ∧
          ∀ last : Nat, commandLine[last]? = some endOfOptions → namespec.position < last + 1 := by
  have haccepted := parse_eq_ok_iff.mp hparse
  obtain ⟨hnone, hnamespecs⟩ := haccepted.namespecs_eq hresolve
  refine ⟨_, hnamespecs, rfl, ?_, ?_⟩
  · rw [haccepted.libraries_eq, List.map_map]
    rfl
  · intro namespec hmem
    obtain ⟨occurrence, hlibrary, rfl⟩ := List.mem_map.mp hmem
    obtain ⟨huse, hopt⟩ := List.mem_filter.mp hlibrary
    have helement := Reading.mem_occurrences.mp huse
    have hopt : occurrence.opt = .library := of_decide_eq_true hopt
    have hclustered : occurrence.clustered = false := by
      simpa [hopt] using List.countP_eq_zero.mp hnone _ helement
    have hreads := reads_of_complaint haccepted.complaint
    obtain ⟨index, name, hposition, hvalue, hat⟩ :=
      hreads.library_at helement hopt hclustered (hblank occurrence huse)
    have hindex : (occurrence.position : Int) = index + 1 := by omega
    refine ⟨index, name, by rw [hindex, hvalue], ?_, ?_⟩
    · exact hat.of_longer (beforeEnd_begins commandLine)
    · intro last hlast
      have hlt := lt_of_endOfOptions hat.index_lt hlast
      show (occurrence.position : Int) < last + 1
      omega

/-- A cluster that takes a value and an operand with a hyphen leave the namespecs where they are. -/
theorem namespecs_stand_beside_cluster :
    ∃ (arguments : Arguments) (options : LinkOptions) (namespecs : List NameSpec),
      (parse (Host.new (some "/work")) ["-vo", "out", "-lm", "-1", "-l", "c"]).result =
          .ok arguments ∧
        (readingOf ["-vo", "out", "-lm", "-1", "-l", "c"]).NoBlank ∧
        ((resolve arguments ["-vo", "out", "-lm", "-1", "-l", "c"]).run ()).result = .ok options ∧
        options.namespecs = some namespecs ∧
        ∀ namespec ∈ namespecs, ∃ (index : Nat) (name : String),
          namespec = ⟨index + 1, .text name⟩ ∧
            LibraryAt ["-vo", "out", "-lm", "-1", "-l", "c"] index name := by
  have hblank : (readingOf ["-vo", "out", "-lm", "-1", "-l", "c"]).NoBlank := by decide +kernel
  refine ⟨_, _, [⟨3, .text "m"⟩, ⟨5, .text "c"⟩], rfl, hblank, rfl, rfl, ?_⟩
  have hparse : (parse (Host.new (some "/work")) ["-vo", "out", "-lm", "-1", "-l", "c"]).result =
    .ok _ := rfl
  obtain ⟨namespecs, hnamespecs, -, -, hat⟩ :=
    namespecs_stand_at_their_arguments hparse hblank () rfl
  obtain rfl := Option.some.inj hnamespecs
  intro namespec hmem
  obtain ⟨index, name, heq, hlibrary, -⟩ := hat namespec hmem
  exact ⟨index, name, heq, hlibrary⟩

end LinkDriver.CommandLine
