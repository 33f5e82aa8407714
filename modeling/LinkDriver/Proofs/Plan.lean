import LinkDriver.Plan

/-!
# Plans of link inputs

`plan_object` and `plan_namespec` say which head the merge takes. Read `plan_of_ascending` first: a
list of inputs with ascending positions is restored from its object files and its namespecs. In any
order of the positions the merge loses nothing unless an object file and a namespec share one
(`plan_perm`), and it keeps two ascending lists ascending (`plan_ascending`).
-/

namespace LinkDriver

/-! ## One step of the merge -/

/-- An object file that stands before the next namespec is taken. -/
theorem plan_object {object : ObjectFile} (objects : List ObjectFile) {namespecs : List NameSpec}
    (hposition : object.position ≠ exhausted)
    (hbefore : ∀ namespec ∈ namespecs.head?, object.position < namespec.position) :
    plan (object :: objects) namespecs = .object object :: plan objects namespecs := by
  cases namespecs with
  | nil =>
      have hprecedes : Precedes object.position exhausted := ⟨hposition, Or.inl rfl⟩
      rw [plan, if_pos hprecedes]
  | cons namespec rest =>
      have hprecedes : Precedes object.position namespec.position :=
        ⟨hposition, Or.inr (hbefore namespec rfl)⟩
      rw [plan, if_pos hprecedes]

/-- A namespec that stands before the next object file is taken, unless that file stands at the
position of an exhausted list. -/
theorem plan_namespec {namespec : NameSpec} (namespecs : List NameSpec) {objects : List ObjectFile}
    (hposition : namespec.position ≠ exhausted)
    (hbefore : ∀ object ∈ objects.head?, namespec.position < object.position) :
    plan objects (namespec :: namespecs) = .namespec namespec :: plan objects namespecs := by
  cases objects with
  | nil =>
      have hprecedes : Precedes namespec.position exhausted := ⟨hposition, Or.inl rfl⟩
      rw [plan, if_pos hprecedes]
  | cons object rest =>
      have hlt : namespec.position < object.position := hbefore object rfl
      have hlater : ¬ Precedes object.position namespec.position := by
        rintro ⟨-, hzero | hafter⟩
        · exact hposition hzero
        · omega
      have hprecedes : Precedes namespec.position object.position := ⟨hposition, Or.inr hlt⟩
      rw [plan, if_neg hlater, if_pos hprecedes]

/-! ## The whole merge -/

/-- The object files and the namespecs of inputs with ascending positive positions are merged into
these inputs. -/
theorem plan_of_ascending {items : List Item} (hpositive : ∀ item ∈ items, 0 < item.position)
    (hascending : items.Pairwise fun first second => first.position < second.position) :
    plan (items.filterMap Item.object?) (items.filterMap Item.namespec?) = items := by
  induction items with
  | nil => rw [List.filterMap_nil, List.filterMap_nil, plan]
  | cons item rest ih =>
      obtain ⟨hbefore, hrest⟩ := List.pairwise_cons.mp hascending
      have hmerge := ih (fun other hmem => hpositive other (List.mem_cons_of_mem _ hmem)) hrest
      have hpos : 0 < item.position := hpositive item (List.mem_cons_self ..)
      have hposition : item.position ≠ exhausted := by
        show item.position ≠ 0
        omega
      cases item with
      | object object =>
          show plan (object :: rest.filterMap Item.object?) (rest.filterMap Item.namespec?) = _
          -- The next namespec comes from the rest, and stands behind.
          rw [plan_object _ hposition ?_, hmerge]
          intro namespec hhead
          obtain ⟨other, hmem, hother⟩ := List.mem_filterMap.mp (List.mem_of_head? hhead)
          cases other with
          | object => exact absurd hother (by simp [Item.namespec?])
          | namespec spec =>
              obtain rfl : spec = namespec := Option.some.inj hother
              exact hbefore _ hmem
      | namespec namespec =>
          show plan (rest.filterMap Item.object?) (namespec :: rest.filterMap Item.namespec?) = _
          rw [plan_namespec _ hposition ?_, hmerge]
          intro object hhead
          obtain ⟨other, hmem, hother⟩ := List.mem_filterMap.mp (List.mem_of_head? hhead)
          cases other with
          | object file =>
              obtain rfl : file = object := Option.some.inj hother
              exact hbefore _ hmem
          | namespec => exact absurd hother (by simp [Item.object?])

/-! ## Nothing is lost -/

/-- A list of items consists of its object files and its namespecs. -/
theorem perm_objects_append_namespecs (items : List Item) :
    items.Perm ((items.filterMap Item.object?).map .object ++
      (items.filterMap Item.namespec?).map .namespec) := by
  induction items with
  | nil => exact List.Perm.refl _
  | cons item rest ih =>
      cases item with
      | object object => exact ih.cons _
      | namespec namespec => exact (ih.cons _).trans List.perm_middle.symm

/-- Object files and namespecs that the merge can tell apart: none stands at the position of an
exhausted list, and no object file shares its position with a namespec. -/
structure Apart (objects : List ObjectFile) (namespecs : List NameSpec) : Prop where
  object_ne : ∀ object ∈ objects, object.position ≠ exhausted
  namespec_ne : ∀ namespec ∈ namespecs, namespec.position ≠ exhausted
  distinct : ∀ object ∈ objects, ∀ namespec ∈ namespecs, object.position ≠ namespec.position

namespace Apart

variable {object : ObjectFile} {objects : List ObjectFile} {namespec : NameSpec}
  {namespecs : List NameSpec}

theorem of_cons_object (h : Apart (object :: objects) namespecs) : Apart objects namespecs where
  object_ne other hmem := h.object_ne other (List.mem_cons_of_mem _ hmem)
  namespec_ne := h.namespec_ne
  distinct other hmem := h.distinct other (List.mem_cons_of_mem _ hmem)

theorem of_cons_namespec (h : Apart objects (namespec :: namespecs)) : Apart objects namespecs where
  object_ne := h.object_ne
  namespec_ne other hmem := h.namespec_ne other (List.mem_cons_of_mem _ hmem)
  distinct first hfirst other hmem := h.distinct first hfirst other (List.mem_cons_of_mem _ hmem)

/-- Of two heads that are apart, the one that does not precede stands behind. -/
theorem lt_of_not_precedes (h : Apart (object :: objects) (namespec :: namespecs))
    (hlater : ¬ Precedes object.position namespec.position) :
    namespec.position < object.position := by
  have hposition := h.object_ne object (List.mem_cons_self ..)
  have hne := h.distinct object (List.mem_cons_self ..) namespec (List.mem_cons_self ..)
  have hnotBefore : ¬ object.position < namespec.position :=
    fun hlt => hlater ⟨hposition, Or.inr hlt⟩
  omega

/-- Of two heads that are apart, the one that precedes stands in front. -/
theorem lt_of_precedes (h : Apart objects (namespec :: namespecs))
    (hprecedes : Precedes object.position namespec.position) :
    object.position < namespec.position := by
  obtain ⟨-, hzero | hlt⟩ := hprecedes
  · exact absurd hzero (h.namespec_ne namespec (List.mem_cons_self ..))
  · exact hlt

end Apart

/-- Inputs that are apart are all planned, each one once. -/
theorem plan_perm {objects : List ObjectFile} {namespecs : List NameSpec}
    (h : Apart objects namespecs) :
    (plan objects namespecs).Perm (objects.map .object ++ namespecs.map .namespec) := by
  induction objects, namespecs using plan.induct with
  | case1 => rw [plan]; exact List.Perm.refl _
  | case2 object objects hprecedes ih =>
      rw [plan, if_pos hprecedes]
      exact (ih h.of_cons_object).cons _
  | case3 object objects hprecedes =>
      exact absurd ⟨h.object_ne object (List.mem_cons_self ..), Or.inl rfl⟩ hprecedes
  | case4 namespec namespecs hprecedes ih =>
      rw [plan, if_pos hprecedes]
      exact (ih h.of_cons_namespec).cons _
  | case5 namespec namespecs hprecedes =>
      exact absurd ⟨h.namespec_ne namespec (List.mem_cons_self ..), Or.inl rfl⟩ hprecedes
  | case6 object objects namespec namespecs hprecedes ih =>
      rw [plan, if_pos hprecedes]
      exact (ih h.of_cons_object).cons _
  | case7 object objects namespec namespecs hlater hprecedes ih =>
      rw [plan, if_neg hlater, if_pos hprecedes]
      exact ((ih h.of_cons_namespec).cons _).trans List.perm_middle.symm
  | case8 object objects namespec namespecs hlater hearlier =>
      -- Two heads stop the merge only where they stand at one position.
      have hlt := h.lt_of_not_precedes hlater
      have hposition := h.namespec_ne namespec (List.mem_cons_self ..)
      exact absurd ⟨hposition, Or.inr hlt⟩ hearlier

/-- Every namespec is planned where the inputs are apart. -/
theorem namespec_mem_plan {objects : List ObjectFile} {namespecs : List NameSpec}
    (h : Apart objects namespecs) {namespec : NameSpec} (hmem : namespec ∈ namespecs) :
    .namespec namespec ∈ plan objects namespecs :=
  (plan_perm h).mem_iff.mpr (List.mem_append_right _ (List.mem_map_of_mem hmem))

/-- `PlannedWhole objects namespecs` says the merge plans every input once, in the order of the
positions. -/
structure PlannedWhole (objects : List ObjectFile) (namespecs : List NameSpec) : Prop where
  perm : (plan objects namespecs).Perm (objects.map .object ++ namespecs.map .namespec)
  ascending : (plan objects namespecs).Pairwise fun first second =>
    first.position < second.position

/-- Nothing is planned that is no input. -/
theorem plan_subset (objects : List ObjectFile) (namespecs : List NameSpec) :
    plan objects namespecs ⊆ objects.map .object ++ namespecs.map .namespec := by
  induction objects, namespecs using plan.induct with
  | case1 => rw [plan]; exact List.nil_subset _
  | case2 object objects hprecedes ih =>
      rw [plan, if_pos hprecedes]
      exact List.cons_subset_cons _ ih
  | case3 object objects hprecedes => rw [plan, if_neg hprecedes]; exact List.nil_subset _
  | case4 namespec namespecs hprecedes ih =>
      rw [plan, if_pos hprecedes]
      exact List.cons_subset_cons _ ih
  | case5 namespec namespecs hprecedes => rw [plan, if_neg hprecedes]; exact List.nil_subset _
  | case6 object objects namespec namespecs hprecedes ih =>
      rw [plan, if_pos hprecedes]
      exact List.cons_subset_cons _ ih
  | case7 object objects namespec namespecs hlater hprecedes ih =>
      rw [plan, if_neg hlater, if_pos hprecedes]
      exact List.Subset.trans (List.cons_subset_cons _ ih) List.perm_middle.symm.subset
  | case8 object objects namespec namespecs hlater hearlier =>
      rw [plan, if_neg hlater, if_neg hearlier]
      exact List.nil_subset _

/-- What the positions of all object files and namespecs have in common, those of the plan have. -/
theorem forall_mem_plan {objects : List ObjectFile} {namespecs : List NameSpec} {p : Int → Prop}
    (hobjects : ∀ object ∈ objects, p object.position)
    (hnamespecs : ∀ namespec ∈ namespecs, p namespec.position) :
    ∀ item ∈ plan objects namespecs, p item.position := by
  intro item hmem
  rcases List.mem_append.mp (plan_subset objects namespecs hmem) with hmem | hmem
  · obtain ⟨object, hobject, rfl⟩ := List.mem_map.mp hmem
    exact hobjects object hobject
  · obtain ⟨namespec, hnamespec, rfl⟩ := List.mem_map.mp hmem
    exact hnamespecs namespec hnamespec

/-- Two ordered lists that are apart are merged into an ordered one. The order may admit repeated
positions or not, as long as what stands before another position stands in order before all that
follow it. -/
theorem plan_ordered {r : Int → Int → Prop} (hlt : ∀ {first second : Int}, first < second →
      r first second)
    (htrans : ∀ {first second third : Int}, first < second → r second third → r first third)
    {objects : List ObjectFile} {namespecs : List NameSpec} (h : Apart objects namespecs)
    (hobjects : objects.Pairwise fun first second => r first.position second.position)
    (hnamespecs : namespecs.Pairwise fun first second => r first.position second.position) :
    (plan objects namespecs).Pairwise fun first second => r first.position second.position := by
  induction objects, namespecs using plan.induct with
  | case1 => rw [plan]; exact List.Pairwise.nil
  | case2 object objects hprecedes ih =>
      rw [plan, if_pos hprecedes]
      obtain ⟨hbefore, hrest⟩ := List.pairwise_cons.mp hobjects
      exact List.pairwise_cons.mpr
        ⟨forall_mem_plan hbefore (by simp), ih h.of_cons_object hrest hnamespecs⟩
  | case3 object objects hprecedes => rw [plan, if_neg hprecedes]; exact List.Pairwise.nil
  | case4 namespec namespecs hprecedes ih =>
      rw [plan, if_pos hprecedes]
      obtain ⟨hbefore, hrest⟩ := List.pairwise_cons.mp hnamespecs
      exact List.pairwise_cons.mpr
        ⟨forall_mem_plan (by simp) hbefore, ih h.of_cons_namespec hobjects hrest⟩
  | case5 namespec namespecs hprecedes => rw [plan, if_neg hprecedes]; exact List.Pairwise.nil
  | case6 object objects namespec namespecs hprecedes ih =>
      rw [plan, if_pos hprecedes]
      obtain ⟨hbefore, hrest⟩ := List.pairwise_cons.mp hobjects
      have hfront := h.lt_of_precedes hprecedes
      refine List.pairwise_cons.mpr ⟨forall_mem_plan hbefore ?_,
        ih h.of_cons_object hrest hnamespecs⟩
      -- The namespecs are ordered from their head, which stands behind the object file.
      intro other hmem
      rcases List.mem_cons.mp hmem with rfl | hmem
      · exact hlt hfront
      · exact htrans hfront ((List.pairwise_cons.mp hnamespecs).1 other hmem)
  | case7 object objects namespec namespecs hlater hprecedes ih =>
      rw [plan, if_neg hlater, if_pos hprecedes]
      obtain ⟨hbefore, hrest⟩ := List.pairwise_cons.mp hnamespecs
      have hfront := h.lt_of_not_precedes hlater
      refine List.pairwise_cons.mpr ⟨forall_mem_plan ?_ hbefore,
        ih h.of_cons_namespec hobjects hrest⟩
      intro other hmem
      rcases List.mem_cons.mp hmem with rfl | hmem
      · exact hlt hfront
      · exact htrans hfront ((List.pairwise_cons.mp hobjects).1 other hmem)
  | case8 object objects namespec namespecs hlater hearlier =>
      rw [plan, if_neg hlater, if_neg hearlier]
      exact List.Pairwise.nil

/-- Two ascending lists that are apart are merged into one. -/
theorem plan_ascending {objects : List ObjectFile} {namespecs : List NameSpec}
    (h : Apart objects namespecs)
    (hobjects : objects.Pairwise fun first second => first.position < second.position)
    (hnamespecs : namespecs.Pairwise fun first second => first.position < second.position) :
    (plan objects namespecs).Pairwise fun first second => first.position < second.position :=
  plan_ordered id Int.lt_trans h hobjects hnamespecs

/-- `Positioned objects namespecs` says the object files and the namespecs stand in the order of
their positive positions, no two at the same one. -/
structure Positioned (objects : List ObjectFile) (namespecs : List NameSpec) : Prop where
  object_pos : ∀ object ∈ objects, 0 < object.position
  namespec_pos : ∀ namespec ∈ namespecs, 0 < namespec.position
  objects_ascending : objects.Pairwise fun first second => first.position < second.position
  namespecs_ascending : namespecs.Pairwise fun first second => first.position < second.position
  distinct : ∀ object ∈ objects, ∀ namespec ∈ namespecs, object.position ≠ namespec.position

/-- Inputs in the order of positive positions are planned whole. -/
theorem Positioned.plannedWhole {objects : List ObjectFile} {namespecs : List NameSpec}
    (h : Positioned objects namespecs) : PlannedWhole objects namespecs := by
  have hapart : Apart objects namespecs := by
    refine ⟨?_, ?_, h.distinct⟩
    · intro object hmem
      have hpos := h.object_pos object hmem
      show object.position ≠ 0
      omega
    · intro namespec hmem
      have hpos := h.namespec_pos namespec hmem
      show namespec.position ≠ 0
      omega
  exact ⟨plan_perm hapart, plan_ascending hapart h.objects_ascending h.namespecs_ascending⟩

end LinkDriver
