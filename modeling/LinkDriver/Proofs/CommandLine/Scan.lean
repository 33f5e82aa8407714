import LinkDriver.Proofs.CommandLine.Reads
import LinkDriver.Proofs.CommandLine.Roles

/-!
# The scan beside the reading

The scan for positions runs over the same arguments as the reading, one argument at a time, and
stays in step with it. Read `scansAs_of_reads` first: the scan never looks past the arguments that
were read, and the positions that it finds are told by the elements of the reading. It differs from
the reading in three places, which `scannedObject?` and `scannedLibrary?` spell out: an operand that
begins with a hyphen is missed, the separate value of an option in a cluster is taken for an object
file, and a library in a cluster is missed.
-/

namespace LinkDriver.CommandLine

/-! ## Positions -/

theorem positionsFrom_append (wanted : Role) (position : Nat) (first second : List Role) :
    positionsFrom wanted position (first ++ second) =
      positionsFrom wanted position first ++
        positionsFrom wanted (position + first.length) second := by
  induction first generalizing position with
  | nil => simp [positionsFrom]
  | cons found rest ih =>
      have hposition : position + 1 + rest.length = position + (rest.length + 1) := by omega
      simp only [List.cons_append, positionsFrom, ih (position + 1), List.length_cons, hposition]
      split <;> rfl

/-- Behind the end of the options every position is that of an object file. -/
theorem positionsFrom_map_object (position : Nat) (arguments : List String) :
    positionsFrom .object position (arguments.map fun _ => .object) =
      List.range' position arguments.length := by
  induction arguments generalizing position with
  | nil => rfl
  | cons argument rest ih =>
      rw [List.map_cons, positionsFrom, if_pos rfl, ih, List.length_cons, List.range'_succ]

theorem positionsFrom_library_map_object (position : Nat) (arguments : List String) :
    positionsFrom .library position (arguments.map fun _ => .object) = [] := by
  induction arguments generalizing position with
  | nil => rfl
  | cons argument rest ih => rw [List.map_cons, positionsFrom, if_neg (by decide), ih]

/-- A role stands at the positions that are found for it. -/
theorem mem_positionsFrom_iff {wanted : Role} {position place : Nat} {found : List Role} :
    place ∈ positionsFrom wanted position found ↔
      ∃ index, place = position + index ∧ found[index]? = some wanted := by
  induction found generalizing position with
  | nil => simp [positionsFrom]
  | cons role rest ih =>
      have hrest : place ∈ positionsFrom wanted (position + 1) rest ↔
          ∃ index, place = position + (index + 1) ∧ (role :: rest)[index + 1]? = some wanted := by
        rw [ih]
        refine exists_congr fun index => and_congr ?_ ?_
        · omega
        · rw [List.getElem?_cons_succ]
      constructor
      · intro hmem
        unfold positionsFrom at hmem
        split at hmem
        · rename_i hrole
          rcases List.mem_cons.mp hmem with rfl | hmem
          · exact ⟨0, rfl, by rw [hrole]; rfl⟩
          · obtain ⟨index, hindex⟩ := hrest.mp hmem
            exact ⟨index + 1, hindex⟩
        · obtain ⟨index, hindex⟩ := hrest.mp hmem
          exact ⟨index + 1, hindex⟩
      · intro h
        obtain ⟨index, hplace, hindex⟩ := h
        unfold positionsFrom
        cases index with
        | zero =>
            obtain rfl : role = wanted := by simpa using hindex
            simp [hplace]
        | succ index =>
            have hmem := hrest.mpr ⟨index, hplace, hindex⟩
            split
            · exact List.mem_cons_of_mem _ hmem
            · exact hmem

/-- The positions of two roles are apart. -/
theorem positions_ne {first second : Role} (hne : first ≠ second) {flags arguments : List String}
    {place other : Nat} (hplace : place ∈ positions first flags arguments)
    (hother : other ∈ positions second flags arguments) : place ≠ other := by
  intro heq
  subst heq
  obtain ⟨index, hindex, hfirst⟩ := mem_positionsFrom_iff.mp hplace
  obtain ⟨same, hsame, hsecond⟩ := mem_positionsFrom_iff.mp hother
  obtain rfl : index = same := by omega
  exact hne (Option.some.inj (hfirst.symm.trans hsecond))

/-- Positions count from 1. -/
theorem pos_of_mem_positions {wanted : Role} {flags arguments : List String} {place : Nat}
    (h : place ∈ positions wanted flags arguments) : 0 < place := by
  obtain ⟨index, hindex, -⟩ := mem_positionsFrom_iff.mp h
  omega

/-! ## One argument of the scan -/

/-- The scan of an argument from which it skips nothing. -/
theorem roles_cons {flags : List String} {argument : String} (hend : argument ≠ endOfOptions)
    (hskip : skipsNext flags argument = false) (rest : List String) :
    roles flags (argument :: rest) = role flags argument :: roles flags rest := by
  conv => lhs; unfold roles
  simp [hend, hskip]

/-- The scan of an argument and the value that it skips. -/
theorem roles_skip {flags : List String} {argument : String} (hend : argument ≠ endOfOptions)
    (hskip : skipsNext flags argument = true) (value : String) (rest : List String) :
    roles flags (argument :: value :: rest) =
      role flags argument :: .value :: roles flags rest := by
  conv => lhs; unfold roles
  simp [hend, hskip]

/-- Every argument has one role. -/
theorem length_roles (flags arguments : List String) :
    (roles flags arguments).length = arguments.length := by
  fun_induction roles flags arguments with
  | case1 => rfl
  | case2 => simp
  | case3 argument rest hend ihskip ih =>
      cases hskip : skipsNext flags argument with
      | false => simpa using ih
      | true =>
          cases rest with
          | nil => simp
          | cons value others => simpa using ihskip

/-! ## What the scan finds -/

namespace Element

/-- The position of the object file that the scan finds in an element. -/
@[simp] def scannedObject? : Element → Option Nat
  | operand position text => if isOptionLike text then none else some position
  | unknown _ => none
  | use occurrence =>
    match occurrence.clustered, occurrence.argument with
    | true, .separate value => if isOptionLike value then none else some (occurrence.position + 1)
    | _, _ => none

/-- The position of the library that the scan finds in an element. -/
@[simp] def scannedLibrary? : Element → Option Nat
  | use occurrence =>
    if occurrence.opt = .library ∧ occurrence.clustered = false then some occurrence.position
    else none
  | _ => none

end Element

/-- `ScansAs position tokens elements` says the scan stops at the end of `tokens`, the first of
which has the given position, and finds in them what is told of `elements`. -/
structure ScansAs (position : Nat) (tokens : List String) (elements : List Element) : Prop where
  append : ∀ rest, roles ownValueFlags (tokens ++ rest) =
    roles ownValueFlags tokens ++ roles ownValueFlags rest
  objects : positionsFrom .object position (roles ownValueFlags tokens) =
    elements.filterMap Element.scannedObject?
  libraries : positionsFrom .library position (roles ownValueFlags tokens) =
    elements.filterMap Element.scannedLibrary?

theorem ScansAs.nil (position : Nat) : ScansAs position [] [] where
  append _ := rfl
  objects := rfl
  libraries := rfl

/-- Scans of neighbouring arguments make up one scan. -/
theorem ScansAs.trans {position : Nat} {tokens rest : List String} {elements more : List Element}
    (h : ScansAs position tokens elements)
    (hrest : ScansAs (position + tokens.length) rest more) :
    ScansAs position (tokens ++ rest) (elements ++ more) where
  append last := by rw [List.append_assoc, h.append, hrest.append, h.append, List.append_assoc]
  objects := by
    rw [h.append, positionsFrom_append, length_roles, h.objects, hrest.objects,
      List.filterMap_append]
  libraries := by
    rw [h.append, positionsFrom_append, length_roles, h.libraries, hrest.libraries,
      List.filterMap_append]

/-! ## In step with the reading -/

/-- What an element's text is to the scan when the reading takes it for an operand. -/
theorem positionsFrom_operand {text : String} (hclass : classify text = .operand)
    (position : Nat) :
    positionsFrom .object position [role ownValueFlags text] =
        (if isOptionLike text then [] else [position]) ∧
      positionsFrom .library position [role ownValueFlags text] = [] := by
  have hlibrary : role ownValueFlags text ≠ .library := by
    intro h
    obtain ⟨long, attached, huse⟩ := role_eq_library_iff.mp h
    simp [hclass] at huse
  cases hlike : isOptionLike text with
  | false => simp [positionsFrom, role_eq_object_iff.mpr hlike]
  | true =>
      have hobject : role ownValueFlags text ≠ .object := by
        simp [role_eq_object_iff, hlike]
      simp [positionsFrom, hobject, hlibrary]

/-- What the scan finds in an argument that uses an option. -/
theorem positionsFrom_use {text : String} {opt : Opt} {long : Bool} {attached : Option String}
    (hclass : classify text = .use opt long attached) (position : Nat) :
    positionsFrom .object position [role ownValueFlags text] = [] ∧
      positionsFrom .library position [role ownValueFlags text] =
        if opt = .library then [position] else [] := by
  have hobject : role ownValueFlags text ≠ .object := by
    intro h
    simp [classify, role_eq_object_iff.mp h] at hclass
  have hlibrary : role ownValueFlags text = .library ↔ opt = .library := by
    rw [role_eq_library_iff, hclass]
    simp
  simp [positionsFrom, hobject, hlibrary]

/-- From an argument that is no use, or has its value attached, the scan skips nothing. -/
theorem skipsNext_eq_false {text : String}
    (h : ∀ opt long, classify text = .use opt long none → opt.takesValue = false) :
    skipsNext ownValueFlags text = false := by
  cases hskip : skipsNext ownValueFlags text with
  | false => rfl
  | true =>
      obtain ⟨opt, long, hclass, hvalue⟩ := skipsNext_eq_true_iff.mp hskip
      simp [h opt long hclass] at hvalue

theorem scansAs_of_roles {position : Nat} {tokens : List String} {elements : List Element}
    (found : List Role)
    (hroles : ∀ rest, roles ownValueFlags (tokens ++ rest) = found ++ roles ownValueFlags rest)
    (hobjects : positionsFrom .object position found = elements.filterMap Element.scannedObject?)
    (hlibraries :
      positionsFrom .library position found = elements.filterMap Element.scannedLibrary?) :
    ScansAs position tokens elements := by
  have hfound : roles ownValueFlags tokens = found := by
    simpa [roles] using hroles []
  exact ⟨fun rest => by rw [hroles, hfound], by rw [hfound, hobjects], by rw [hfound, hlibraries]⟩

/-- An operand is missed by the scan if it begins with a hyphen. -/
theorem scansAs_operand {position : Nat} {text : String} (hclass : classify text = .operand)
    (hne : text ≠ endOfOptions) : ScansAs position [text] [.operand position text] := by
  have hskip : skipsNext ownValueFlags text = false :=
    skipsNext_eq_false (by simp [hclass])
  obtain ⟨hobject, hlibrary⟩ := positionsFrom_operand hclass position
  refine scansAs_of_roles [role ownValueFlags text] (roles_cons hne hskip) ?_ ?_
  · rw [hobject]
    cases hlike : isOptionLike text <;> simp [hlike]
  · rw [hlibrary]
    rfl

/-- An unknown option holds no input. -/
theorem scansAs_unknown {position : Nat} {text : String} (hclass : classify text = .unknown)
    (hne : text ≠ endOfOptions) : ScansAs position [text] [.unknown text] := by
  have hskip : skipsNext ownValueFlags text = false :=
    skipsNext_eq_false (by simp [hclass])
  have hobject : role ownValueFlags text ≠ .object := by
    intro h
    simp [classify, role_eq_object_iff.mp h] at hclass
  have hlibrary : role ownValueFlags text ≠ .library := by
    intro h
    obtain ⟨long, attached, huse⟩ := role_eq_library_iff.mp h
    simp [hclass] at huse
  refine scansAs_of_roles [role ownValueFlags text] (roles_cons hne hskip) ?_ ?_
  · simp [positionsFrom, hobject]
  · simp [positionsFrom, hlibrary]

/-- A single option is a library or none to both, and its separate value is skipped. -/
theorem scansAs_single {position : Nat} {text : String} {opt : Opt} {long : Bool}
    {attached : Option String} {separate : List String} {argument : Argument}
    (hclass : classify text = .use opt long attached)
    (hsupplied : Supplied opt attached separate argument) (hne : text ≠ endOfOptions) :
    ScansAs position (text :: separate) [.use ⟨opt, position, false, argument⟩] := by
  obtain ⟨hobject, hlibrary⟩ := positionsFrom_use hclass position
  have hobjects :
      [Element.use ⟨opt, position, false, argument⟩].filterMap Element.scannedObject? = [] := by
    simp
  have hlibraries :
      [Element.use ⟨opt, position, false, argument⟩].filterMap Element.scannedLibrary? =
        if opt = .library then [position] else [] := by
    by_cases hopt : opt = .library <;> simp [hopt]
  cases hsupplied with
  | absent hnone =>
      have hskip : skipsNext ownValueFlags text = false :=
        skipsNext_eq_false (by simp [hclass, hnone])
      exact scansAs_of_roles [role ownValueFlags text] (roles_cons hne hskip)
        (by rw [hobject, hobjects]) (by rw [hlibrary, hlibraries])
  | attached value hvalue =>
      have hskip : skipsNext ownValueFlags text = false :=
        skipsNext_eq_false (by simp [hclass])
      exact scansAs_of_roles [role ownValueFlags text] (roles_cons hne hskip)
        (by rw [hobject, hobjects]) (by rw [hlibrary, hlibraries])
  | separate value hvalue hoperand =>
      have hskip := skipsNext_eq_true_iff.mpr ⟨opt, long, hclass, hvalue⟩
      refine scansAs_of_roles ([role ownValueFlags text] ++ [Role.value])
        (roles_skip hne hskip value) ?_ ?_
      · rw [positionsFrom_append, hobject, hobjects]
        simp [positionsFrom]
      · rw [positionsFrom_append, hlibrary, hlibraries]
        simp [positionsFrom]

/-- In the elements of a cluster the scan finds an input only where its last option takes a separate
value. -/
theorem filterMap_scanned_cluster (position : Nat) (first last : Opt) (others : List Opt)
    (argument : Argument) (hfirst : first ≠ .library) :
    (Element.use ⟨first, position, false, .absent⟩ ::
        others.map (fun flag => Element.use ⟨flag, position, true, .absent⟩) ++
          [Element.use ⟨last, position, true, argument⟩]).filterMap Element.scannedObject? =
      [Element.use ⟨last, position, true, argument⟩].filterMap Element.scannedObject? ∧
    (Element.use ⟨first, position, false, .absent⟩ ::
        others.map (fun flag => Element.use ⟨flag, position, true, .absent⟩) ++
          [Element.use ⟨last, position, true, argument⟩]).filterMap Element.scannedLibrary? =
      [] := by
  have hflags : (others.map fun flag => Element.use ⟨flag, position, true, .absent⟩).filterMap
      Element.scannedObject? = [] := by simp
  have hlibraries : (others.map fun flag => Element.use ⟨flag, position, true, .absent⟩).filterMap
      Element.scannedLibrary? = [] := by simp
  constructor
  · rw [List.filterMap_append, List.filterMap_cons_none rfl, hflags, List.nil_append]
  · rw [List.filterMap_append, List.filterMap_cons_none (by simp [hfirst]), hlibraries]
    simp

/-- A cluster is no input to the scan, but its separate value is one unless it is option-like. -/
theorem scansAs_cluster {position : Nat} {text run : String} {first last : Opt}
    {others : List Opt} {long : Bool} {attached : Option String} {separate : List String}
    {argument : Argument} (hclass : classify text = .use first long (some run))
    (hnone : first.takesValue = false) (hsupplied : Supplied last attached separate argument)
    (hend : endOfOptions ∉ text :: separate) :
    ScansAs position (text :: separate)
      (.use ⟨first, position, false, .absent⟩ ::
        others.map (fun flag => .use ⟨flag, position, true, .absent⟩) ++
          [.use ⟨last, position, true, argument⟩]) := by
  have hne : text ≠ endOfOptions := by
    intro heq
    subst heq
    simp at hend
  have hskip : skipsNext ownValueFlags text = false :=
    skipsNext_eq_false (by simp [hclass])
  have hfirst : first ≠ .library := by
    intro heq
    subst heq
    exact absurd hnone (by decide)
  obtain ⟨hobject, hlibrary⟩ := positionsFrom_use hclass position
  rw [if_neg hfirst] at hlibrary
  obtain ⟨hobjects, hlibraries⟩ :=
    filterMap_scanned_cluster position first last others argument hfirst
  cases hsupplied with
  | absent hlast =>
      exact scansAs_of_roles [role ownValueFlags text] (roles_cons hne hskip)
        (by rw [hobject, hobjects]; rfl) (by rw [hlibrary, hlibraries])
  | attached value hvalue =>
      exact scansAs_of_roles [role ownValueFlags text] (roles_cons hne hskip)
        (by rw [hobject, hobjects]; rfl) (by rw [hlibrary, hlibraries])
  | separate value hvalue hoperand =>
      -- The scan does not know that the cluster takes a value, and looks at it as an argument.
      have hvalueEnd : value ≠ endOfOptions := by
        intro heq
        subst heq
        simp at hend
      have hvalueSkip : skipsNext ownValueFlags value = false :=
        skipsNext_eq_false (by simp [hoperand])
      obtain ⟨hvalueObject, hvalueLibrary⟩ := positionsFrom_operand hoperand (position + 1)
      refine scansAs_of_roles ([role ownValueFlags text] ++ [role ownValueFlags value])
        (fun rest => ?_) ?_ ?_
      · simp [roles_cons hne hskip, roles_cons hvalueEnd hvalueSkip]
      · rw [positionsFrom_append, hobject, hobjects]
        show positionsFrom .object (position + 1) [role ownValueFlags value] = _
        rw [hvalueObject]
        cases hlike : isOptionLike value <;> simp [hlike]
      · rw [positionsFrom_append, hlibrary, hlibraries]
        exact hvalueLibrary

/-- One step of the reading is one step of the scan. -/
theorem scansAs_of_readsAs {position : Nat} {tokens : List String} {elements : List Element}
    (h : ReadsAs position tokens elements) (hend : endOfOptions ∉ tokens) :
    ScansAs position tokens elements := by
  cases h with
  | operand text hclass => exact scansAs_operand hclass (by simpa [eq_comm] using hend)
  | unknown text hclass => exact scansAs_unknown hclass (by simpa [eq_comm] using hend)
  | single hclass hsupplied =>
      refine scansAs_single hclass hsupplied ?_
      intro heq
      subst heq
      simp at hend
  | cluster hclass hcluster hnone hsupplied =>
      exact scansAs_cluster hclass (hnone _ (List.mem_cons_self ..)) hsupplied hend

/-- A complaint-free reading is in step with the scan. -/
theorem scansAs_of_reads {position : Nat} {tokens : List String} {elements : List Element}
    (h : Reads position tokens elements) (hend : endOfOptions ∉ tokens) :
    ScansAs position tokens elements := by
  induction h with
  | nil position => exact .nil position
  | step hstep _ ih =>
      simp only [List.mem_append, not_or] at hend
      exact (scansAs_of_readsAs hstep hend.1).trans (ih hend.2)

end LinkDriver.CommandLine
