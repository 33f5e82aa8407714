import LinkDriver.CommandLine.Resolution
import LinkDriver.Proofs.CommandLine.Parsed
import LinkDriver.Proofs.CommandLine.Scan

/-!
# When a parsed command line is refused

The inputs of a parsed command line get the positions that the scan finds, and the command line is
refused if the scan counts other inputs than the parse. Three counts of the reading tell exactly
when that is so: the operands that begin with a hyphen, the separate values of options in a cluster
that begin with none, and the libraries in a cluster. Read `resolve_refused_iff` first. The first
two counts may cancel, so that a command line is accepted though the scan is wrong about it.
-/

namespace LinkDriver.CommandLine

/-! ## The three counts -/

namespace Element

/-- Whether an element is an operand that the scan takes for an option. -/
@[simp] def isDashedOperand : Element → Bool
  | operand _ text => isOptionLike text
  | _ => false

/-- Whether an element is an option in a cluster whose separate value the scan takes for an
object file. -/
@[simp] def hasClusteredValue : Element → Bool
  | use occurrence =>
    match occurrence.argument with
    | .separate value => occurrence.clustered && !isOptionLike value
    | _ => false
  | _ => false

/-- Whether an element is a library in a cluster, which the scan does not see. -/
@[simp] def isClusteredLibrary : Element → Bool
  | use occurrence => occurrence.opt == .library && occurrence.clustered
  | _ => false

end Element

namespace Reading

/-- The number of operands that begin with a hyphen and are more than that. -/
def dashedOperands (reading : Reading) : Nat :=
  reading.elements.countP Element.isDashedOperand

/-- The number of separate values that options in a cluster take and that are not option-like. -/
def clusteredValues (reading : Reading) : Nat :=
  reading.elements.countP Element.hasClusteredValue

/-- The number of libraries in a cluster. -/
def clusteredLibraries (reading : Reading) : Nat :=
  reading.elements.countP Element.isClusteredLibrary

/-- No text attached to an option is the end of the options. -/
def NoBlank (reading : Reading) : Prop :=
  ∀ occurrence ∈ reading.occurrences, occurrence.argument ≠ .attached .blank

instance (reading : Reading) : Decidable reading.NoBlank :=
  inferInstanceAs (Decidable (∀ occurrence ∈ reading.occurrences, _))

/-- The scan misses the dashed operands and finds the clustered values in their place. -/
theorem length_scannedObjects (reading : Reading) :
    (reading.elements.filterMap Element.scannedObject?).length + reading.dashedOperands =
      reading.operands.length + reading.clusteredValues := by
  obtain ⟨elements, complaint⟩ := reading
  simp only [dashedOperands, clusteredValues, operands]
  induction elements with
  | nil => rfl
  | cons element rest ih =>
      rw [List.countP_cons, List.countP_cons, List.filterMap_cons, List.filterMap_cons]
      cases element with
      | operand position text =>
          cases hlike : isOptionLike text <;>
            simp [hlike] <;> omega
      | unknown text => simpa using ih
      | use occurrence =>
          obtain ⟨opt, position, clustered, argument⟩ := occurrence
          cases argument with
          | absent | attached => cases clustered <;> simpa using ih
          | separate value =>
              cases clustered <;> cases hlike : isOptionLike value <;>
                simp [hlike] <;> omega

/-- The scan misses the clustered libraries. -/
theorem length_scannedLibraries (reading : Reading) :
    (reading.elements.filterMap Element.scannedLibrary?).length + reading.clusteredLibraries =
      reading.libraries.length := by
  obtain ⟨elements, complaint⟩ := reading
  simp only [clusteredLibraries, libraries, occurrences]
  induction elements with
  | nil => rfl
  | cons element rest ih =>
      rw [List.countP_cons, List.filterMap_cons, List.filterMap_cons]
      cases element with
      | operand position text => simpa using ih
      | unknown text => simpa using ih
      | use occurrence =>
          obtain ⟨opt, position, clustered, argument⟩ := occurrence
          by_cases hopt : opt = .library <;> cases clustered <;>
            simp [hopt] <;> omega

end Reading

/-! ## The positions on a whole command line -/

/-- The scan finds its inputs in the elements of the reading, and every argument behind the end of
the options is an object file. -/
theorem positions_eq {commandLine : List String}
    (h : (readingOf commandLine).complaint = none) :
    positions .object ownValueFlags commandLine =
        (readingOf commandLine).elements.filterMap Element.scannedObject? ++
          List.range' ((beforeEnd commandLine).length + 2) (behindEnd commandLine).length ∧
      positions .library ownValueFlags commandLine =
        (readingOf commandLine).elements.filterMap Element.scannedLibrary? := by
  have hscan : ScansAs 1 (beforeEnd commandLine) (readingOf commandLine).elements :=
    scansAs_of_reads (reads_of_complaint h) (endOfOptions_not_mem_beforeEnd commandLine)
  unfold positions
  rcases commandLine_split commandLine with ⟨hsplit, hbehind⟩ | hsplit
  · rw [hbehind]
    rw [← hsplit] at hscan
    exact ⟨by simpa using hscan.objects, hscan.libraries⟩
  · have hend : roles ownValueFlags (endOfOptions :: behindEnd commandLine) =
        .other :: (behindEnd commandLine).map fun _ => .object := by
      unfold roles
      exact if_pos rfl
    -- The end of the options has a position, but is no input.
    have hroles := hscan.append (endOfOptions :: behindEnd commandLine)
    rw [← hsplit, hend] at hroles
    rw [hroles, positionsFrom_append, positionsFrom_append, hscan.objects, hscan.libraries,
      length_roles]
    simp only [positionsFrom, reduceCtorEq, if_false, positionsFrom_map_object,
      positionsFrom_library_map_object, List.append_nil, and_true]
    congr 2
    omega

namespace AcceptedAs

variable {host : Host} {commandLine : List String} {arguments : Arguments}

/-- The scan counts the right number of object files exactly if the dashed operands and the
clustered values balance. -/
theorem length_objects_iff (h : AcceptedAs host commandLine arguments) :
    (positions .object ownValueFlags commandLine).length = arguments.objects.length ↔
      (readingOf commandLine).clusteredValues = (readingOf commandLine).dashedOperands := by
  have hcount := (readingOf commandLine).length_scannedObjects
  rw [(positions_eq h.complaint).1, h.objects]
  simp only [List.length_append, List.length_range']
  omega

/-- The scan counts the right number of libraries exactly if none is in a cluster. -/
theorem length_libraries_iff (h : AcceptedAs host commandLine arguments) :
    (positions .library ownValueFlags commandLine).length = arguments.libraries.length ↔
      (readingOf commandLine).clusteredLibraries = 0 := by
  have hcount := (readingOf commandLine).length_scannedLibraries
  rw [(positions_eq h.complaint).2, h.libraries_eq, List.length_map]
  omega

/-- Where no blank is attached, no option has a blank value. -/
theorem value_ne_blank (h : AcceptedAs host commandLine arguments)
    (hblank : (readingOf commandLine).NoBlank) {occurrence : Occurrence}
    (hmem : occurrence ∈ (readingOf commandLine).occurrences)
    (htakes : occurrence.opt.takesValue = true) : occurrence.value ≠ .blank := by
  have hargument :=
    (reads_of_complaint h.complaint).takesValue_iff (Reading.mem_occurrences.mp hmem)
  -- The only value of an option that is no text is an attached blank.
  have hnone := hargument.mp htakes
  have hattached := hblank occurrence hmem
  unfold Occurrence.value
  cases hcase : occurrence.argument with
  | absent => exact absurd hcase hnone
  | separate text => simp
  | attached value =>
      rintro rfl
      exact absurd hcase hattached

/-- Where no blank is attached, the libraries are texts. -/
theorem libraries_texts (h : AcceptedAs host commandLine arguments)
    (hblank : (readingOf commandLine).NoBlank) :
    ∃ names : List String, arguments.libraries = names.map .text := by
  refine ⟨arguments.libraries.map Value.display, ?_⟩
  have htext : ∀ value ∈ arguments.libraries, Value.text value.display = value := by
    intro value hvalue
    rw [h.libraries_eq] at hvalue
    obtain ⟨occurrence, hmem, rfl⟩ := List.mem_map.mp hvalue
    obtain ⟨huse, hopt⟩ := List.mem_filter.mp hmem
    have htakes : occurrence.opt.takesValue = true := by
      rw [of_decide_eq_true hopt]
      rfl
    cases hcase : occurrence.value with
    | text content => rfl
    | blank => exact absurd hcase (h.value_ne_blank hblank huse htakes)
  calc
    arguments.libraries = arguments.libraries.map id := (List.map_id _).symm
    _ = arguments.libraries.map (Value.text ∘ Value.display) :=
      List.map_congr_left fun value hvalue => (htext value hvalue).symm
    _ = (arguments.libraries.map Value.display).map .text := (List.map_map ..).symm

end AcceptedAs

/-! ## The refusal -/

/-- Resolving the arguments of a command line places their inputs, and makes the options of it. -/
theorem resolve_result {σ : Type} (arguments : Arguments) (scanned : List String) (state : σ) :
    ((resolve arguments scanned).run state).result =
      (placedInputs arguments scanned).map fun inputs =>
        linkOptions arguments inputs.1 inputs.2 := by
  unfold resolve
  cases hplaced : placedInputs arguments scanned with
  | error failure => rw [Action.run_bind_error (e := failure) (by simp)]; rfl
  | ok inputs =>
      rw [Action.run_bind_ok (a := inputs) (by simp)]
      rfl

/-- The arguments are resolved exactly if the scan counts their inputs. -/
theorem resolve_eq_ok_iff {σ : Type} {arguments : Arguments} {scanned : List String} {state : σ}
    {options : LinkOptions} :
    ((resolve arguments scanned).run state).result = .ok options ↔
      (positions .object ownValueFlags scanned).length = arguments.objects.length ∧
      (positions .library ownValueFlags scanned).length = arguments.libraries.length ∧
      options = linkOptions arguments
        (objectsAt (positions .object ownValueFlags scanned) arguments.objects)
        (namespecsAt (positions .library ownValueFlags scanned) arguments.libraries) := by
  rw [resolve_result]
  simp only [placedInputs]
  constructor
  · intro h
    split at h
    · exact absurd h (by simp [Except.map])
    split at h
    · exact absurd h (by simp [Except.map])
    rename_i hobjects hlibraries
    exact ⟨Decidable.not_not.mp hobjects, Decidable.not_not.mp hlibraries, (Except.ok.inj h).symm⟩
  · intro h
    obtain ⟨hobjects, hlibraries, rfl⟩ := h
    rw [if_neg (not_not_intro hobjects), if_neg (not_not_intro hlibraries)]
    rfl

namespace AcceptedAs

variable {host : Host} {commandLine : List String} {arguments : Arguments}

/-- Where no option with a value is in a cluster, there are no values and libraries in one. -/
theorem no_clustered (h : AcceptedAs host commandLine arguments)
    (hclusters : ∀ occurrence ∈ (readingOf commandLine).occurrences,
      occurrence.clustered = true → occurrence.opt.takesValue = false) :
    (readingOf commandLine).clusteredValues = 0 ∧
      (readingOf commandLine).clusteredLibraries = 0 := by
  have hreads := reads_of_complaint h.complaint
  constructor
  · apply List.countP_eq_zero.mpr
    intro element hmem hvalue
    cases element with
    | operand | unknown => simp at hvalue
    | use occurrence =>
        simp only [Element.hasClusteredValue] at hvalue
        split at hvalue
        · rename_i value hargument
          have htakes := (hreads.takesValue_iff hmem).mpr (by simp [hargument])
          have hnone := hclusters occurrence (Reading.mem_occurrences.mpr hmem) (by simp_all)
          simp [htakes] at hnone
        · exact absurd hvalue (by simp)
  · apply List.countP_eq_zero.mpr
    intro element hmem hlibrary
    cases element with
    | operand | unknown => simp at hlibrary
    | use occurrence =>
        simp only [Element.isClusteredLibrary, Bool.and_eq_true, beq_iff_eq] at hlibrary
        have hnone := hclusters occurrence (Reading.mem_occurrences.mpr hmem) hlibrary.2
        rw [hlibrary.1] at hnone
        exact absurd hnone (by decide)

/-- What becomes of an accepted command line without blanks. -/
theorem resolve_cases {σ : Type} (h : AcceptedAs host commandLine arguments)
    {names : List String} (hnames : arguments.libraries = names.map .text) (state : σ) :
    ((readingOf commandLine).clusteredValues ≠ (readingOf commandLine).dashedOperands ∧
      ((resolve arguments commandLine).run state).result =
        .error (.driver (.objectPositions arguments.objects))) ∨
    ((readingOf commandLine).clusteredValues = (readingOf commandLine).dashedOperands ∧
      0 < (readingOf commandLine).clusteredLibraries ∧
      ((resolve arguments commandLine).run state).result =
        .error (.driver (.namespecPositions names))) ∨
    ((readingOf commandLine).clusteredValues = (readingOf commandLine).dashedOperands ∧
      (readingOf commandLine).clusteredLibraries = 0 ∧
      ∃ options, ((resolve arguments commandLine).run state).result = .ok options) := by
  have hunknown : namespecPositionsUnknown arguments.libraries =
      .driver (.namespecPositions names) := by
    simp [namespecPositionsUnknown, hnames]
  rw [resolve_result]
  simp only [placedInputs, ne_eq, h.length_objects_iff, h.length_libraries_iff, hunknown]
  by_cases hobjects :
      (readingOf commandLine).clusteredValues = (readingOf commandLine).dashedOperands
  · right
    rw [if_neg (not_not_intro hobjects)]
    by_cases hlibraries : (readingOf commandLine).clusteredLibraries = 0
    · right
      rw [if_neg (not_not_intro hlibraries)]
      exact ⟨hobjects, hlibraries, _, rfl⟩
    · left
      rw [if_pos hlibraries]
      exact ⟨hobjects, Nat.pos_of_ne_zero hlibraries, rfl⟩
  · left
    rw [if_pos hobjects]
    exact ⟨hobjects, rfl⟩

end AcceptedAs

/-- A parsed command line to which no blank is attached is refused exactly if the dashed operands
and the clustered values do not balance, or a library is in a cluster. In the first case the
complaint is about the object files, in the second one alone it is about the namespecs. -/
theorem resolve_refused_iff {σ : Type} {host : Host} {commandLine : List String}
    {arguments : Arguments} (hparse : (parse host commandLine).result = .ok arguments)
    (hblank : (readingOf commandLine).NoBlank) (state : σ) :
    ((∃ error, ((resolve arguments commandLine).run state).result = .error (.driver error) ∧
        error.errorClass = .usage) ↔
      (readingOf commandLine).clusteredValues ≠ (readingOf commandLine).dashedOperands ∨
        0 < (readingOf commandLine).clusteredLibraries) ∧
    (((resolve arguments commandLine).run state).result =
        .error (.driver (.objectPositions arguments.objects)) ↔
      (readingOf commandLine).clusteredValues ≠ (readingOf commandLine).dashedOperands) ∧
    ((∃ names : List String, arguments.libraries = names.map .text ∧
        ((resolve arguments commandLine).run state).result =
          .error (.driver (.namespecPositions names))) ↔
      (readingOf commandLine).clusteredValues = (readingOf commandLine).dashedOperands ∧
        0 < (readingOf commandLine).clusteredLibraries) ∧
    ((∃ options, ((resolve arguments commandLine).run state).result = .ok options) ↔
      (readingOf commandLine).clusteredValues = (readingOf commandLine).dashedOperands ∧
        (readingOf commandLine).clusteredLibraries = 0) ∧
    ((∀ occurrence ∈ (readingOf commandLine).occurrences,
        occurrence.clustered = true → occurrence.opt.takesValue = false) →
      (readingOf commandLine).dashedOperands = 0 →
      ∃ options, ((resolve arguments commandLine).run state).result = .ok options) := by
  have haccepted := parse_eq_ok_iff.mp hparse
  obtain ⟨names, hnames⟩ := haccepted.libraries_texts hblank
  have hclean : (∀ occurrence ∈ (readingOf commandLine).occurrences,
        occurrence.clustered = true → occurrence.opt.takesValue = false) →
      (readingOf commandLine).dashedOperands = 0 →
      (readingOf commandLine).clusteredValues = (readingOf commandLine).dashedOperands ∧
        (readingOf commandLine).clusteredLibraries = 0 := by
    intro hclusters hdashed
    obtain ⟨hvalues, hlibraries⟩ := haccepted.no_clustered hclusters
    exact ⟨hvalues.trans hdashed.symm, hlibraries⟩
  -- Each of the three outcomes settles all five statements.
  rcases haccepted.resolve_cases hnames state with
    ⟨hobjects, hresult⟩ | ⟨hobjects, hlibraries, hresult⟩ | ⟨hobjects, hlibraries, options, hresult⟩
  · rw [hresult]
    refine ⟨?_, ?_, ?_, ?_, ?_⟩
    · simp [hobjects, DriverError.errorClass]
    · simp [hobjects]
    · simp [hobjects]
    · simp [hobjects]
    · intro hclusters hdashed
      exact absurd (hclean hclusters hdashed).1 hobjects
  · rw [hresult]
    refine ⟨?_, ?_, ?_, ?_, ?_⟩
    · simp [hlibraries, DriverError.errorClass]
    · simp [hobjects]
    · constructor
      · intro _
        exact ⟨hobjects, hlibraries⟩
      · intro _
        exact ⟨names, hnames, rfl⟩
    · simp [Nat.ne_of_gt hlibraries]
    · intro hclusters hdashed
      exact absurd (hclean hclusters hdashed).2 (Nat.ne_of_gt hlibraries)
  · rw [hresult]
    refine ⟨?_, ?_, ?_, ?_, ?_⟩
    · simp [hobjects, hlibraries]
    · simp [hobjects]
    · simp [hlibraries]
    · simp [hobjects, hlibraries]
    · intro _ _
      exact ⟨options, rfl⟩

/-- In `-vlm` the library is in a cluster, and the command line is refused. -/
theorem resolve_refused_of_cluster :
    ∃ arguments : Arguments,
      (parse (Host.new (some "/work")) ["-vlm", "a.o"]).result = .ok arguments ∧
        (readingOf ["-vlm", "a.o"]).NoBlank ∧
        ∃ error, ((resolve arguments ["-vlm", "a.o"]).run ()).result = .error (.driver error) ∧
          error.errorClass = .usage := by
  have hblank : (readingOf ["-vlm", "a.o"]).NoBlank := by decide +kernel
  refine ⟨_, rfl, hblank, ?_⟩
  exact (resolve_refused_iff rfl hblank ()).1.mpr (Or.inr (by decide +kernel))

end LinkDriver.CommandLine
