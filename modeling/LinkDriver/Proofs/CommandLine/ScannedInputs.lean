import LinkDriver.Proofs.CommandLine.Rejection
import LinkDriver.Proofs.Plan

/-!
# The inputs that the scan finds are planned

Whatever flags the scan takes to have a value, the positions of a role ascend within the command
line, and no argument has two roles. Read `scanned_inputs_planned` first: inputs at these positions
are therefore planned whole, and among them the inputs of all link options that are resolved.
-/

namespace LinkDriver.CommandLine

/-! ## Positions of one role -/

theorem positionsFrom_ascending (wanted : Role) (position : Nat) (found : List Role) :
    (positionsFrom wanted position found).Pairwise (· < ·) := by
  induction found generalizing position with
  | nil => exact List.Pairwise.nil
  | cons role rest ih =>
      unfold positionsFrom
      split
      · refine List.pairwise_cons.mpr ⟨?_, ih (position + 1)⟩
        intro place hmem
        obtain ⟨index, hplace, -⟩ := mem_positionsFrom_iff.mp hmem
        omega
      · exact ih (position + 1)

/-- The positions of a role ascend. -/
theorem positions_ascending (wanted : Role) (flags arguments : List String) :
    (positions wanted flags arguments).Pairwise (· < ·) :=
  positionsFrom_ascending wanted 1 (roles flags arguments)

/-- Positions end with the command line. -/
theorem le_length_of_mem_positions {wanted : Role} {flags arguments : List String} {place : Nat}
    (h : place ∈ positions wanted flags arguments) : place ≤ arguments.length := by
  obtain ⟨index, hplace, hindex⟩ := mem_positionsFrom_iff.mp h
  obtain ⟨hlt, -⟩ := List.getElem?_eq_some_iff.mp hindex
  rw [length_roles] at hlt
  omega

/-! ## Inputs at the positions of the scan -/

/-- `Labelled flags commandLine objects namespecs` says the object files and the namespecs stand, in
their order, at the positions that the scan finds for them. -/
structure Labelled (flags commandLine : List String) (objects : List ObjectFile)
    (namespecs : List NameSpec) : Prop where
  objects : objects.map ObjectFile.position =
    (positions .object flags commandLine).map fun (place : Nat) => (place : Int)
  namespecs : namespecs.map NameSpec.position =
    (positions .library flags commandLine).map fun (place : Nat) => (place : Int)

namespace Labelled

variable {flags commandLine : List String} {objects : List ObjectFile} {namespecs : List NameSpec}

theorem object_mem (h : Labelled flags commandLine objects namespecs) {object : ObjectFile}
    (hmem : object ∈ objects) :
    ∃ place ∈ positions .object flags commandLine, (place : Int) = object.position := by
  have hposition : object.position ∈ objects.map ObjectFile.position := List.mem_map_of_mem hmem
  rw [h.objects] at hposition
  exact List.mem_map.mp hposition

theorem namespec_mem (h : Labelled flags commandLine objects namespecs) {namespec : NameSpec}
    (hmem : namespec ∈ namespecs) :
    ∃ place ∈ positions .library flags commandLine, (place : Int) = namespec.position := by
  have hposition : namespec.position ∈ namespecs.map NameSpec.position := List.mem_map_of_mem hmem
  rw [h.namespecs] at hposition
  exact List.mem_map.mp hposition

/-- No argument is an object file and a library, and none stands at position 0. -/
theorem apart (h : Labelled flags commandLine objects namespecs) : Apart objects namespecs where
  object_ne object hmem := by
    obtain ⟨place, hplace, hposition⟩ := h.object_mem hmem
    have hpos := pos_of_mem_positions hplace
    show object.position ≠ 0
    omega
  namespec_ne namespec hmem := by
    obtain ⟨place, hplace, hposition⟩ := h.namespec_mem hmem
    have hpos := pos_of_mem_positions hplace
    show namespec.position ≠ 0
    omega
  distinct object hobject namespec hnamespec := by
    obtain ⟨place, hplace, hposition⟩ := h.object_mem hobject
    obtain ⟨other, hother, hlibrary⟩ := h.namespec_mem hnamespec
    have hne := positions_ne (by decide) hplace hother
    omega

/-- Inputs at the positions of the scan are planned whole. -/
theorem plannedWhole (h : Labelled flags commandLine objects namespecs) :
    PlannedWhole objects namespecs := by
  have hascending : ∀ wanted : Role, ((positions wanted flags commandLine).map
      fun (place : Nat) => (place : Int)).Pairwise (· < ·) := by
    intro wanted
    refine List.pairwise_map.mpr ((positions_ascending wanted flags commandLine).imp ?_)
    intro first second hlt
    exact Int.ofNat_lt.mpr hlt
  have hobjects := hascending .object
  have hnamespecs := hascending .library
  rw [← h.objects, List.pairwise_map] at hobjects
  rw [← h.namespecs, List.pairwise_map] at hnamespecs
  exact ⟨plan_perm h.apart, plan_ascending h.apart hobjects hnamespecs⟩

end Labelled

/-- Inputs that are placed one by one have the positions at which they are placed. -/
theorem map_position_zipWith {α β : Type} {build : Nat → α → β} (position : β → Int)
    (hbuild : ∀ place value, position (build place value) = place) {places : List Nat}
    {values : List α} (hlength : places.length = values.length) :
    (places.zipWith build values).map position = places.map fun (place : Nat) => (place : Int) := by
  induction places generalizing values with
  | nil => rfl
  | cons place rest ih =>
      cases values with
      | nil => exact absurd hlength (by simp)
      | cons value others =>
          have hrest : rest.length = others.length := by simpa using hlength
          simp [hbuild, ih hrest]

/-- Inputs that are placed one by one keep what is placed. -/
theorem map_value_zipWith {α β : Type} {build : Nat → α → β} (value : β → α)
    (hbuild : ∀ place a, value (build place a) = a) {places : List Nat} {values : List α}
    (hlength : places.length = values.length) :
    (places.zipWith build values).map value = values := by
  induction places generalizing values with
  | nil => exact (List.eq_nil_of_length_eq_zero hlength.symm).symm
  | cons place rest ih =>
      cases values with
      | nil => rfl
      | cons a others =>
          have hrest : rest.length = others.length := by simpa using hlength
          simp [hbuild, ih hrest]

/-- The inputs of resolved link options are the objects and the libraries of the arguments. -/
theorem inputs_of_resolve {σ : Type} {arguments : Arguments} {scanned : List String} {state : σ}
    {options : LinkOptions} (h : ((resolve arguments scanned).run state).result = .ok options) :
    ∃ objects namespecs, options.objects = some objects ∧ options.namespecs = some namespecs ∧
      objects.map ObjectFile.path = arguments.objects ∧
      namespecs.map NameSpec.name = arguments.libraries := by
  obtain ⟨hobjects, hlibraries, rfl⟩ := resolve_eq_ok_iff.mp h
  refine ⟨_, _, rfl, rfl, map_value_zipWith ObjectFile.path ?_ hobjects,
    map_value_zipWith NameSpec.name ?_ hlibraries⟩
  · exact fun _ _ => rfl
  · exact fun _ _ => rfl

/-- The inputs of resolved link options stand at the positions of the scan. -/
theorem labelled_of_resolve {σ : Type} {arguments : Arguments} {scanned : List String} {state : σ}
    {options : LinkOptions} (h : ((resolve arguments scanned).run state).result = .ok options) :
    ∃ objects namespecs, options.objects = some objects ∧ options.namespecs = some namespecs ∧
      Labelled ownValueFlags scanned objects namespecs := by
  obtain ⟨hobjects, hlibraries, rfl⟩ := resolve_eq_ok_iff.mp h
  refine ⟨_, _, rfl, rfl, ?_, ?_⟩
  · refine map_position_zipWith ObjectFile.position ?_ hobjects
    exact fun _ _ => rfl
  · refine map_position_zipWith NameSpec.position ?_ hlibraries
    exact fun _ _ => rfl

/-- For every set of flags, the positions that the scan finds for object files and those it finds
for libraries ascend, are apart, and lie within the command line. Inputs at these positions are all
planned, each one once and in ascending order, and so are those of all link options to which some
arguments and this command line are resolved. -/
theorem scanned_inputs_planned (flags commandLine : List String) :
    (positions .object flags commandLine).Pairwise (· < ·) ∧
      (positions .library flags commandLine).Pairwise (· < ·) ∧
      (∀ place ∈ positions .object flags commandLine,
        place ∉ positions .library flags commandLine) ∧
      (∀ place ∈ positions .object flags commandLine ++ positions .library flags commandLine,
        1 ≤ place ∧ place ≤ commandLine.length) ∧
      (∀ objects namespecs, Labelled flags commandLine objects namespecs →
        PlannedWhole objects namespecs) ∧
      ∀ {σ : Type} (arguments : Arguments) (state : σ) (options : LinkOptions),
        ((resolve arguments commandLine).run state).result = .ok options →
          ∃ objects namespecs, options.objects = some objects ∧
            options.namespecs = some namespecs ∧ PlannedWhole objects namespecs := by
  refine ⟨positions_ascending _ _ _, positions_ascending _ _ _, ?_, ?_, ?_, ?_⟩
  · intro place hobject hlibrary
    exact positions_ne (by decide) hobject hlibrary rfl
  · intro place hmem
    rcases List.mem_append.mp hmem with hmem | hmem
    · exact ⟨pos_of_mem_positions hmem, le_length_of_mem_positions hmem⟩
    · exact ⟨pos_of_mem_positions hmem, le_length_of_mem_positions hmem⟩
  · intro objects namespecs hlabelled
    exact hlabelled.plannedWhole
  · intro σ arguments state options hresolve
    obtain ⟨objects, namespecs, hobjects, hnamespecs, hlabelled⟩ := labelled_of_resolve hresolve
    exact ⟨objects, namespecs, hobjects, hnamespecs, hlabelled.plannedWhole⟩

/-- The scan steps over a separate value, and behind the first end of the options it takes all for
object files, a second end and a library flag too. -/
theorem scanned_inputs_behind_end :
    Labelled ownValueFlags ["-o", "out", "a.o", "-lm", "--", "-l", "--"]
        [⟨3, "a.o"⟩, ⟨6, "-l"⟩, ⟨7, "--"⟩] [⟨4, .text "m"⟩] ∧
      PlannedWhole [⟨3, "a.o"⟩, ⟨6, "-l"⟩, ⟨7, "--"⟩] [⟨4, .text "m"⟩] ∧
      ∃ arguments options,
        (parse (Host.new (some "/work")) ["-o", "out", "a.o", "-lm", "--", "-l", "--"]).result =
            .ok arguments ∧
          ((resolve arguments ["-o", "out", "a.o", "-lm", "--", "-l", "--"]).run ()).result =
            .ok options ∧
          ∃ objects namespecs, options.objects = some objects ∧
            options.namespecs = some namespecs ∧ PlannedWhole objects namespecs := by
  obtain ⟨-, -, -, -, hlabelled, hresolved⟩ := scanned_inputs_planned ownValueFlags
    ["-o", "out", "a.o", "-lm", "--", "-l", "--"]
  have hplaced : Labelled ownValueFlags ["-o", "out", "a.o", "-lm", "--", "-l", "--"]
      [⟨3, "a.o"⟩, ⟨6, "-l"⟩, ⟨7, "--"⟩] [⟨4, .text "m"⟩] :=
    ⟨by decide +kernel, by decide +kernel⟩
  obtain ⟨arguments, options, hparse, hresolve⟩ : ∃ arguments options,
      (parse (Host.new (some "/work")) ["-o", "out", "a.o", "-lm", "--", "-l", "--"]).result =
          .ok arguments ∧
        ((resolve arguments ["-o", "out", "a.o", "-lm", "--", "-l", "--"]).run ()).result =
          .ok options := ⟨_, _, rfl, rfl⟩
  exact ⟨hplaced, hlabelled _ _ hplaced, arguments, options, hparse, hresolve,
    hresolved arguments () options hresolve⟩

end LinkDriver.CommandLine
