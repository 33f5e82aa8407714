import LinkDriver.Proofs.CommandLine.Namespecs
import LinkDriver.Proofs.Engine.Recording

/-!
# The inputs that a command line names

`namedInputs` lists the inputs as the reading has them: its operands and libraries, and the
arguments behind the end of the options, each with the position of its own argument. Read
`namedInputs_ascending` and `AcceptedAs.namedInputs_stand` first: the list is in the order of the
command line, and every input stands where its position says.
-/

namespace LinkDriver.CommandLine

/-! ## Definitions -/

/-- The input that an element of a reading names. -/
@[simp] def Element.input? : Element → Option Item
  | operand position text => some (.object ⟨position, text⟩)
  | unknown _ => none
  | use occurrence =>
    if occurrence.opt = .library then some (.namespec ⟨occurrence.position, occurrence.value⟩)
    else none

/-- The inputs that a reading names, in their order. -/
def Reading.inputs (reading : Reading) : List Item :=
  reading.elements.filterMap Element.input?

/-- The object files behind the end of the options. -/
def objectsBehind (commandLine : List String) : List ObjectFile :=
  objectsAt
    (List.range' ((beforeEnd commandLine).length + 2) (behindEnd commandLine).length)
    (behindEnd commandLine)

/-- The inputs that a command line names, in their order. -/
def namedInputs (commandLine : List String) : List Item :=
  (readingOf commandLine).inputs ++ (objectsBehind commandLine).map .object

/-- The argument at the position of an input is that input. -/
def Stands (commandLine : List String) : Item → Prop
  | .object object =>
    ∃ index : Nat, object.position = index + 1 ∧ commandLine[index]? = some object.path
  | .namespec spec =>
    ∃ (index : Nat) (name : String),
      spec = ⟨index + 1, .text name⟩ ∧ LibraryAt commandLine index name

/-! ## Order -/

/-- One step of a reading names one input at most, at its own position. -/
theorem ReadsAs.inputs_cases {position : Nat} {tokens : List String} {elements : List Element}
    (h : ReadsAs position tokens elements) :
    elements.filterMap Element.input? = [] ∨
      ∃ item, elements.filterMap Element.input? = [item] ∧ item.position = position := by
  cases h with
  | operand text => exact Or.inr ⟨_, rfl, rfl⟩
  | unknown => exact Or.inl rfl
  | @single text opt long attached separate argument hclass hsupplied =>
      by_cases hopt : opt = .library
      · right
        refine ⟨.namespec ⟨position, Occurrence.value ⟨opt, position, false, argument⟩⟩, ?_, rfl⟩
        simp [hopt]
      · left
        simp [hopt]
  | @cluster text run first last others long attached separate argument hclass hcluster hnone
      hsupplied =>
      have hflag : ∀ flag ∈ first :: others, flag ≠ .library := by
        rintro flag hmem rfl
        exact absurd (hnone .library hmem) (by decide)
      have hfirst : first ≠ .library := hflag first (List.mem_cons_self ..)
      have hothers : (others.map fun flag => Element.use ⟨flag, position, true, .absent⟩).filterMap
          Element.input? = [] := by
        rw [List.filterMap_map, List.filterMap_eq_nil_iff]
        intro flag hmem
        simp [hflag flag (List.mem_cons_of_mem _ hmem)]
      by_cases hlast : last = .library
      · right
        refine ⟨.namespec ⟨position, Occurrence.value ⟨last, position, true, argument⟩⟩, ?_, rfl⟩
        rw [List.filterMap_append, List.filterMap_cons_none (by simp [hfirst]), hothers]
        simp [hlast]
      · left
        rw [List.filterMap_append, List.filterMap_cons_none (by simp [hfirst]), hothers]
        simp [hlast]

theorem ReadsAs.length_pos {position : Nat} {tokens : List String} {elements : List Element}
    (h : ReadsAs position tokens elements) : 0 < tokens.length := by
  cases h <;> simp

/-- The inputs of a reading lie within the arguments that were read. -/
theorem Reads.inputs_within {position : Nat} {tokens : List String} {elements : List Element}
    (h : Reads position tokens elements) {item : Item}
    (hmem : item ∈ elements.filterMap Element.input?) :
    position ≤ item.position ∧ item.position < position + tokens.length := by
  induction h with
  | nil => simp at hmem
  | @step position group rest found more hstep _ ih =>
      have hpos := hstep.length_pos
      rw [List.length_append]
      rw [List.filterMap_append, List.mem_append] at hmem
      rcases hmem with hmem | hmem
      · rcases hstep.inputs_cases with hnil | ⟨only, honly, hposition⟩
        · simp [hnil] at hmem
        · obtain rfl : item = only := by simpa [honly] using hmem
          omega
      · have hwithin := ih hmem
        omega

/-- The positions of the inputs of a reading ascend. -/
theorem Reads.inputs_ascending {position : Nat} {tokens : List String} {elements : List Element}
    (h : Reads position tokens elements) :
    (elements.filterMap Element.input?).Pairwise fun first second =>
      first.position < second.position := by
  induction h with
  | nil => exact List.Pairwise.nil
  | @step position group rest found more hstep hrest ih =>
      have hpos := hstep.length_pos
      rw [List.filterMap_append, List.pairwise_append]
      refine ⟨?_, ih, ?_⟩
      · rcases hstep.inputs_cases with hnil | ⟨only, honly, -⟩
        · rw [hnil]
          exact List.Pairwise.nil
        · rw [honly]
          exact List.pairwise_singleton _ _
      · -- Later inputs stand behind all arguments of this step.
        intro item hmem other hother
        have hlater := (hrest.inputs_within hother).1
        rcases hstep.inputs_cases with hnil | ⟨only, honly, hposition⟩
        · simp [hnil] at hmem
        · obtain rfl : item = only := by simpa [honly] using hmem
          omega

/-! ## Behind the end of the options -/

/-- The object files behind the end of the options, one by one. -/
theorem getElem?_objectsBehind (commandLine : List String) (index : Nat) :
    (objectsBehind commandLine)[index]? =
      (behindEnd commandLine)[index]?.map fun path =>
        ⟨(beforeEnd commandLine).length + 2 + index, path⟩ := by
  unfold objectsBehind objectsAt
  rw [List.getElem?_zipWith]
  cases hpath : (behindEnd commandLine)[index]? with
  | none => simp
  | some path =>
      obtain ⟨hlt, -⟩ := List.getElem?_eq_some_iff.mp hpath
      simp [hlt]

/-- The object files behind the end of the options stand where their positions say. -/
theorem objectsBehind_stand {commandLine : List String} {object : ObjectFile}
    (hmem : object ∈ objectsBehind commandLine) :
    Stands commandLine (.object object) ∧
      (beforeEnd commandLine).length + 2 ≤ object.position := by
  obtain ⟨index, hobject⟩ := List.mem_iff_getElem?.mp hmem
  rw [getElem?_objectsBehind, Option.map_eq_some_iff] at hobject
  obtain ⟨path, hpath, rfl⟩ := hobject
  refine ⟨⟨(beforeEnd commandLine).length + (index + 1), ?_, ?_⟩, ?_⟩
  · show ((beforeEnd commandLine).length + 2 + index : Int) = _
    omega
  · rcases commandLine_split commandLine with ⟨-, hbehind⟩ | hsplit
    · simp [hbehind] at hpath
    · have hindex : (beforeEnd commandLine ++ endOfOptions :: behindEnd commandLine)[
          (beforeEnd commandLine).length + (index + 1)]? = some path := by
        rw [List.getElem?_append_right (by omega), Nat.add_sub_cancel_left,
          List.getElem?_cons_succ, hpath]
      rwa [← hsplit] at hindex
  · show (_ : Int) ≤ (beforeEnd commandLine).length + 2 + index
    omega

/-- The positions behind the end of the options ascend. -/
theorem objectsBehind_ascending (commandLine : List String) :
    (objectsBehind commandLine).Pairwise fun first second =>
      first.position < second.position := by
  rw [List.pairwise_iff_getElem]
  intro i j hi hj hlt
  have hfirst := getElem?_objectsBehind commandLine i
  have hsecond := getElem?_objectsBehind commandLine j
  rw [List.getElem?_eq_getElem hi, eq_comm, Option.map_eq_some_iff] at hfirst
  rw [List.getElem?_eq_getElem hj, eq_comm, Option.map_eq_some_iff] at hsecond
  obtain ⟨path, -, hpath⟩ := hfirst
  obtain ⟨other, -, hother⟩ := hsecond
  rw [← hpath, ← hother]
  show (_ + 2 + i : Int) < _ + 2 + j
  omega

/-! ## The inputs of a command line -/

namespace AcceptedAs

variable {host : Host} {commandLine : List String} {arguments : Arguments}

/-- The inputs that an accepted command line names have positive positions, in ascending order. -/
theorem namedInputs_ascending (h : AcceptedAs host commandLine arguments) :
    (∀ item ∈ namedInputs commandLine, 0 < item.position) ∧
      (namedInputs commandLine).Pairwise fun first second => first.position < second.position := by
  have hreads := reads_of_complaint h.complaint
  constructor
  · intro item hmem
    rcases List.mem_append.mp hmem with hmem | hmem
    · have hwithin := hreads.inputs_within hmem
      omega
    · obtain ⟨object, hobject, rfl⟩ := List.mem_map.mp hmem
      have hbehind := (objectsBehind_stand hobject).2
      show 0 < object.position
      omega
  · refine List.pairwise_append.mpr ⟨hreads.inputs_ascending, ?_, ?_⟩
    · exact List.pairwise_map.mpr (objectsBehind_ascending commandLine)
    · intro item hmem other hother
      obtain ⟨object, hobject, rfl⟩ := List.mem_map.mp hother
      have hwithin := (hreads.inputs_within hmem).2
      have hbehind := (objectsBehind_stand hobject).2
      show item.position < object.position
      omega

/-- Where no library is blank or in a cluster, every input of the command line stands at its
position. -/
theorem namedInputs_stand (h : AcceptedAs host commandLine arguments)
    (hclusters : (readingOf commandLine).clusteredLibraries = 0)
    (hwhole : ∀ item ∈ namedInputs commandLine, ¬ Recording.IsBlank item) :
    ∀ item ∈ namedInputs commandLine, Stands commandLine item := by
  have hreads := reads_of_complaint h.complaint
  intro item hmem
  have hnotBlank := hwhole item hmem
  rcases List.mem_append.mp hmem with hmem | hmem
  · obtain ⟨element, helement, hitem⟩ := List.mem_filterMap.mp hmem
    cases element with
    | unknown => exact absurd hitem (by simp)
    | operand position text =>
        obtain rfl := Option.some.inj hitem
        obtain ⟨index, hplace, hindex⟩ := hreads.operand_at helement
        refine ⟨index, ?_, getElem?_of_begins (beforeEnd_begins commandLine) hindex⟩
        show (position : Int) = index + 1
        omega
    | use occurrence =>
        by_cases hopt : occurrence.opt = .library
        · obtain rfl : Item.namespec ⟨occurrence.position, occurrence.value⟩ = item := by
            simpa [hopt] using hitem
          have hclustered : occurrence.clustered = false := by
            simpa [hopt] using List.countP_eq_zero.mp hclusters _ helement
          have hargument : occurrence.argument ≠ .attached .blank := by
            intro hblank
            exact hnotBlank ⟨_, rfl, by simp [Occurrence.value, hblank]⟩
          obtain ⟨index, name, hposition, hvalue, hat⟩ :=
            hreads.library_at helement hopt hclustered hargument
          refine ⟨index, name, ?_, hat.of_longer (beforeEnd_begins commandLine)⟩
          have hindex : (occurrence.position : Int) = index + 1 := by omega
          rw [hindex, hvalue]
        · exact absurd hitem (by simp [hopt])
  · obtain ⟨object, hobject, rfl⟩ := List.mem_map.mp hmem
    exact (objectsBehind_stand hobject).1

end AcceptedAs

end LinkDriver.CommandLine
