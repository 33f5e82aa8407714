import LinkDriver.Proofs.MergeRounds
import Mathlib.Data.Int.LeastGreatest

/-!
# The merge up to the first shared position

Where both lists are in order, the merge is told by the positions that an object file shares with a
namespec. Read `plan_merged_before_shared` first: without such a position the plan is the one
arrangement of all inputs in the order of the positions; otherwise it is the merge of the inputs in
front of the smallest one.

`exists_rest` holds of lists in any order. It says what the merge leaves behind.
-/

namespace LinkDriver

variable {objects : List ObjectFile} {namespecs : List NameSpec} {object : ObjectFile}
  {namespec : NameSpec} {items inputs : List Item} {position : Int}

/-! ## Where the merge stops -/

/-- The position at the head of a list, which is that of an exhausted list if there is none. -/
def headPosition (positions : List Int) : Int :=
  positions.head?.getD exhausted

theorem headPosition_drop {α : Type} (position : α → Int) (inputs : List α) (cursor : Nat) :
    headPosition ((inputs.drop cursor).map position) = positionAt (inputs.map position) cursor := by
  rw [headPosition, positionAt, List.map_drop, List.head?_drop]

/-- The plan takes both lists from their heads, in their order, and stops where the heads of what is
left stand at one position. -/
theorem exists_rest (objects : List ObjectFile) (namespecs : List NameSpec) :
    ∃ objectsLeft namespecsLeft,
      objects = (plan objects namespecs).filterMap Item.object? ++ objectsLeft ∧
      namespecs = (plan objects namespecs).filterMap Item.namespec? ++ namespecsLeft ∧
      headPosition (objectsLeft.map ObjectFile.position) =
        headPosition (namespecsLeft.map NameSpec.position) := by
  obtain ⟨final, hrounds, hstop⟩ := completes_plan objects namespecs
  obtain ⟨hobjects, hnamespecs⟩ := hrounds.takes_first
  refine ⟨objects.drop final.objects, namespecs.drop final.namespecs, ?_, ?_, ?_⟩
  · rw [hobjects, List.take_append_drop]
  · rw [hnamespecs, List.take_append_drop]
  · rw [headPosition_drop, headPosition_drop, hstop.position_eq]

/-! ## Lists in order -/

/-- Object files and namespecs in the order of their positions, of which none is that of an
exhausted list. Positions may be negative, and may be repeated. -/
structure InOrder (objects : List ObjectFile) (namespecs : List NameSpec) : Prop where
  object_ne : ∀ object ∈ objects, object.position ≠ exhausted
  namespec_ne : ∀ namespec ∈ namespecs, namespec.position ≠ exhausted
  objects_ordered : objects.Pairwise fun first second => first.position ≤ second.position
  namespecs_ordered : namespecs.Pairwise fun first second => first.position ≤ second.position

/-- An object file and a namespec stand at the position. -/
def Shared (objects : List ObjectFile) (namespecs : List NameSpec) (position : Int) : Prop :=
  position ∈ objects.map ObjectFile.position ∧ position ∈ namespecs.map NameSpec.position

namespace InOrder

theorem of_cons_object (h : InOrder (object :: objects) namespecs) : InOrder objects namespecs where
  object_ne other hmem := h.object_ne other (List.mem_cons_of_mem _ hmem)
  namespec_ne := h.namespec_ne
  objects_ordered := h.objects_ordered.tail
  namespecs_ordered := h.namespecs_ordered

theorem of_cons_namespec (h : InOrder objects (namespec :: namespecs)) :
    InOrder objects namespecs where
  object_ne := h.object_ne
  namespec_ne other hmem := h.namespec_ne other (List.mem_cons_of_mem _ hmem)
  objects_ordered := h.objects_ordered
  namespecs_ordered := h.namespecs_ordered.tail

/-- No object file stands in front of the first one. -/
theorem object_le (h : InOrder (object :: objects) namespecs) {other : ObjectFile}
    (hmem : other ∈ object :: objects) : object.position ≤ other.position := by
  rcases List.mem_cons.mp hmem with rfl | hmem
  · exact le_rfl
  · exact List.rel_of_pairwise_cons h.objects_ordered hmem

/-- No namespec stands in front of the first one. -/
theorem namespec_le (h : InOrder objects (namespec :: namespecs)) {other : NameSpec}
    (hmem : other ∈ namespec :: namespecs) : namespec.position ≤ other.position := by
  rcases List.mem_cons.mp hmem with rfl | hmem
  · exact le_rfl
  · exact List.rel_of_pairwise_cons h.namespecs_ordered hmem

/-- No shared position stands in front of the first object file. -/
theorem object_le_shared (h : InOrder (object :: objects) namespecs)
    (hshared : Shared (object :: objects) namespecs position) : object.position ≤ position := by
  obtain ⟨other, hmem, rfl⟩ := List.mem_map.mp hshared.1
  exact h.object_le hmem

/-- No shared position stands in front of the first namespec. -/
theorem namespec_le_shared (h : InOrder objects (namespec :: namespecs))
    (hshared : Shared objects (namespec :: namespecs) position) : namespec.position ≤ position := by
  obtain ⟨other, hmem, rfl⟩ := List.mem_map.mp hshared.2
  exact h.namespec_le hmem

/-- The inputs in front of a position are in order. -/
theorem filter (h : InOrder objects namespecs) (position : Int) :
    InOrder (objects.filter fun object => object.position < position)
      (namespecs.filter fun namespec => namespec.position < position) where
  object_ne object hmem := h.object_ne object (List.mem_filter.mp hmem).1
  namespec_ne namespec hmem := h.namespec_ne namespec (List.mem_filter.mp hmem).1
  objects_ordered := h.objects_ordered.filter _
  namespecs_ordered := h.namespecs_ordered.filter _

/-- Lists in order without a shared position are apart. -/
theorem apart (h : InOrder objects namespecs) (hnone : ∀ position, ¬ Shared objects namespecs
    position) : Apart objects namespecs where
  object_ne := h.object_ne
  namespec_ne := h.namespec_ne
  distinct object hobject _ hnamespec heq := hnone object.position
    ⟨List.mem_map_of_mem hobject, heq ▸ List.mem_map_of_mem hnamespec⟩

/-- Lists that share a position share a smallest one. -/
theorem exists_least (h : InOrder objects namespecs) (hshared : Shared objects namespecs position) :
    ∃ least, Shared objects namespecs least ∧
      ∀ other, Shared objects namespecs other → least ≤ other := by
  cases objects with
  | nil => exact absurd hshared.1 List.not_mem_nil
  | cons object objects =>
      exact Int.exists_least_of_bdd ⟨object.position, fun _ => h.object_le_shared⟩ ⟨_, hshared⟩

/-- The merge of lists that share a position is that of the inputs in front of the smallest one. -/
theorem plan_eq_of_shared (h : InOrder objects namespecs)
    (hshared : Shared objects namespecs position)
    (hleast : ∀ other, Shared objects namespecs other → position ≤ other) :
    plan objects namespecs =
      plan (objects.filter fun object => object.position < position)
        (namespecs.filter fun namespec => namespec.position < position) := by
  induction objects, namespecs using plan.induct with
  | case1 => exact absurd hshared.1 List.not_mem_nil
  | case2 | case3 => exact absurd hshared.2 List.not_mem_nil
  | case4 | case5 => exact absurd hshared.1 List.not_mem_nil
  | case6 object objects namespec namespecs hprecedes ih =>
      have hlt : object.position < namespec.position :=
        hprecedes.2.resolve_left (h.namespec_ne namespec (List.mem_cons_self ..))
      have hfront : object.position < position :=
        lt_of_lt_of_le hlt (h.namespec_le_shared hshared)
      have hbehind : Shared objects (namespec :: namespecs) position :=
        ⟨(List.mem_cons.mp hshared.1).resolve_left hfront.ne', hshared.2⟩
      have hrest := ih h.of_cons_object hbehind
        fun other hother => hleast other ⟨List.mem_cons_of_mem _ hother.1, hother.2⟩
      rw [plan, if_pos hprecedes, List.filter_cons_of_pos (by simpa using hfront),
        plan_object _ hprecedes.1 ?_, hrest]
      intro other hhead
      have hmem := (List.mem_filter.mp (List.mem_of_head? hhead)).1
      exact lt_of_lt_of_le hlt (h.namespec_le hmem)
  | case7 object objects namespec namespecs hlater hprecedes ih =>
      have hlt : namespec.position < object.position :=
        hprecedes.2.resolve_left (h.object_ne object (List.mem_cons_self ..))
      have hfront : namespec.position < position :=
        lt_of_lt_of_le hlt (h.object_le_shared hshared)
      have hbehind : Shared (object :: objects) namespecs position :=
        ⟨hshared.1, (List.mem_cons.mp hshared.2).resolve_left hfront.ne'⟩
      have hrest := ih h.of_cons_namespec hbehind
        fun other hother => hleast other ⟨hother.1, List.mem_cons_of_mem _ hother.2⟩
      rw [plan, if_neg hlater, if_pos hprecedes,
        List.filter_cons_of_pos (a := namespec) (by simpa using hfront),
        plan_namespec _ hprecedes.1 ?_, hrest]
      intro other hhead
      have hmem := (List.mem_filter.mp (List.mem_of_head? hhead)).1
      exact lt_of_lt_of_le hlt (h.object_le hmem)
  | case8 object objects namespec namespecs hlater hearlier =>
      -- The heads stand at one position, which is the smallest shared one: nothing is in front.
      have heq := eq_of_not_precedes hlater hearlier
      have hfirst : position ≤ object.position :=
        hleast _ ⟨List.mem_cons_self .., heq ▸ List.mem_cons_self ..⟩
      have hobjects : (object :: objects).filter (fun object => object.position < position) = [] := by
        rw [List.filter_eq_nil_iff]
        intro other hmem
        have hle := h.object_le hmem
        simp only [decide_eq_true_eq]
        omega
      have hnamespecs :
          (namespec :: namespecs).filter (fun namespec => namespec.position < position) = [] := by
        rw [List.filter_eq_nil_iff]
        intro other hmem
        have hle := h.namespec_le hmem
        simp only [decide_eq_true_eq]
        omega
      rw [plan, if_neg hlater, if_neg hearlier, hobjects, hnamespecs, plan]

end InOrder

/-! ## Merged lists -/

/-- `Merged items objects namespecs` says the items are the object files and the namespecs, both in
their order, and no item stands in front of the one before it. -/
structure Merged (items : List Item) (objects : List ObjectFile) (namespecs : List NameSpec) :
    Prop where
  objects_eq : items.filterMap Item.object? = objects
  namespecs_eq : items.filterMap Item.namespec? = namespecs
  ordered : items.Pairwise fun first second => first.position ≤ second.position

/-- `Arranged items inputs` says the items are the inputs in the order of their positions, and
inputs at one position are in the order in which they were given. -/
structure Arranged (items inputs : List Item) : Prop where
  perm : items.Perm inputs
  ordered : items.Pairwise fun first second => first.position ≤ second.position
  stable : ∀ position, items.filter (fun item => item.position = position) =
    inputs.filter fun item => item.position = position

/-- The object files of a list stand in it in their order. -/
theorem map_object_sublist (items : List Item) :
    ((items.filterMap Item.object?).map .object).Sublist items := by
  induction items with
  | nil => exact List.Sublist.refl _
  | cons item rest ih =>
      cases item with
      | object object => exact ih.cons_cons _
      | namespec namespec => exact ih.cons _

/-- The namespecs of a list stand in it in their order. -/
theorem map_namespec_sublist (items : List Item) :
    ((items.filterMap Item.namespec?).map .namespec).Sublist items := by
  induction items with
  | nil => exact List.Sublist.refl _
  | cons item rest ih =>
      cases item with
      | object object => exact ih.cons _
      | namespec namespec => exact ih.cons_cons _

/-- Only the items that are chosen stand at a place, and they are in order there. -/
theorem filter_eq_of_sublist {chosen : List Item} {p : Item → Bool} (hchosen : chosen.Sublist items)
    (hperm : items.Perm inputs) (hplace : inputs.filter p = chosen.filter p) :
    items.filter p = inputs.filter p := by
  have hlength := (hperm.filter p).length_eq
  rw [hplace] at hlength ⊢
  exact ((hchosen.filter p).eq_of_length hlength.symm).symm

/-- Inputs of a kind that has none at a position leave nothing there. -/
theorem filter_map_eq_nil {α : Type} (item : α → Item) {kind : List α}
    (h : position ∉ kind.map fun input => (item input).position) :
    (kind.map item).filter (fun item => item.position = position) = [] := by
  rw [List.filter_eq_nil_iff]
  intro other hmem hposition
  obtain ⟨input, hinput, rfl⟩ := List.mem_map.mp hmem
  exact h (List.mem_map.mpr ⟨input, hinput, of_decide_eq_true hposition⟩)

namespace Merged

/-- Nothing is lost and nothing added. -/
theorem perm (h : Merged items objects namespecs) :
    items.Perm (objects.map .object ++ namespecs.map .namespec) := by
  have hperm := perm_objects_append_namespecs items
  rwa [h.objects_eq, h.namespecs_eq] at hperm

/-- Lists that share no position are merged into an arrangement of their inputs. -/
theorem arranged (h : Merged items objects namespecs)
    (hnone : ∀ position, ¬ Shared objects namespecs position) :
    Arranged items (objects.map .object ++ namespecs.map .namespec) where
  perm := h.perm
  ordered := h.ordered
  stable position := by
    -- All inputs at a position are of one kind, and in the order of that kind's list.
    by_cases hobject : position ∈ objects.map ObjectFile.position
    · have hothers := filter_map_eq_nil Item.namespec fun hnamespec =>
        hnone position ⟨hobject, hnamespec⟩
      refine filter_eq_of_sublist (h.objects_eq ▸ map_object_sublist items) h.perm ?_
      rw [List.filter_append, hothers, List.append_nil]
    · have hothers := filter_map_eq_nil Item.object hobject
      refine filter_eq_of_sublist (h.namespecs_eq ▸ map_namespec_sublist items) h.perm ?_
      rw [List.filter_append, hothers, List.nil_append]

end Merged

/-- The head of an ordered list stands at or before the head of a list with the same items at every
position. -/
theorem head_le_of_stable {first second : Item} {rest others : List Item}
    (hordered : (first :: rest).Pairwise fun first second => first.position ≤ second.position)
    (hstable : ∀ position, (first :: rest).filter (fun item => item.position = position) =
      (second :: others).filter fun item => item.position = position) :
    first.position ≤ second.position := by
  have hmem : second ∈ (first :: rest).filter fun item => item.position = second.position := by
    rw [hstable]
    exact List.mem_filter.mpr ⟨List.mem_cons_self .., decide_eq_true rfl⟩
  rcases List.mem_cons.mp (List.mem_filter.mp hmem).1 with rfl | hmem
  · exact le_rfl
  · exact List.rel_of_pairwise_cons hordered hmem

/-- An ordered list is told by its items at every position. -/
theorem eq_of_stable {others : List Item}
    (hordered : items.Pairwise fun first second => first.position ≤ second.position)
    (hothers : others.Pairwise fun first second => first.position ≤ second.position)
    (hstable : ∀ position, items.filter (fun item => item.position = position) =
      others.filter fun item => item.position = position) :
    items = others := by
  induction items generalizing others with
  | nil =>
      cases others with
      | nil => rfl
      | cons second others => exact absurd (hstable second.position) (by simp)
  | cons first rest ih =>
      cases others with
      | nil => exact absurd (hstable first.position) (by simp)
      | cons second others =>
          have hsame : first.position = second.position :=
            le_antisymm (head_le_of_stable hordered hstable)
              (head_le_of_stable hothers fun position => (hstable position).symm)
          have hfront := hstable first.position
          rw [List.filter_cons_of_pos (by simp), List.filter_cons_of_pos (by simp [hsame])] at hfront
          obtain ⟨rfl, hbehind⟩ := List.cons.inj hfront
          refine congrArg (List.cons first) (ih hordered.tail hothers.tail fun position => ?_)
          by_cases hposition : first.position = position
          · exact hposition ▸ hbehind
          · have hrest := hstable position
            rwa [List.filter_cons_of_neg (by simpa using hposition),
              List.filter_cons_of_neg (by simpa using hposition)] at hrest

/-- There is one arrangement of inputs. -/
theorem Arranged.unique {others : List Item} (h : Arranged items inputs)
    (hother : Arranged others inputs) : items = others :=
  eq_of_stable h.ordered hother.ordered fun position =>
    (h.stable position).trans (hother.stable position).symm

/-! ## The plan of lists in order -/

/-- Lists in order that share no position are merged. -/
theorem InOrder.merged (h : InOrder objects namespecs)
    (hnone : ∀ position, ¬ Shared objects namespecs position) :
    Merged (plan objects namespecs) objects namespecs := by
  obtain ⟨objectsLeft, namespecsLeft, hobjects, hnamespecs, hheads⟩ :=
    exists_rest objects namespecs
  obtain ⟨rfl, rfl⟩ : objectsLeft = [] ∧ namespecsLeft = [] := by
    have hobjectsLeft : ∀ object ∈ objectsLeft, object ∈ objects := by
      intro object hmem
      rw [hobjects]
      exact List.mem_append_right _ hmem
    have hnamespecsLeft : ∀ namespec ∈ namespecsLeft, namespec ∈ namespecs := by
      intro namespec hmem
      rw [hnamespecs]
      exact List.mem_append_right _ hmem
    cases objectsLeft with
    | nil =>
        cases namespecsLeft with
        | nil => exact ⟨rfl, rfl⟩
        | cons namespec rest =>
            exact absurd hheads.symm (h.namespec_ne _ (hnamespecsLeft _ (List.mem_cons_self ..)))
    | cons object others =>
        have hobject := hobjectsLeft _ (List.mem_cons_self ..)
        cases namespecsLeft with
        | nil => exact absurd hheads (h.object_ne _ hobject)
        | cons namespec rest =>
            have hsame : object.position = namespec.position := hheads
            exact absurd ⟨List.mem_map_of_mem hobject, hsame ▸ List.mem_map_of_mem
              (hnamespecsLeft _ (List.mem_cons_self ..))⟩ (hnone object.position)
  rw [List.append_nil] at hobjects hnamespecs
  exact ⟨hobjects.symm, hnamespecs.symm,
    plan_ordered Int.le_of_lt (fun hlt hle => (Int.lt_of_lt_of_le hlt hle).le) (h.apart hnone)
      h.objects_ordered h.namespecs_ordered⟩

/-- The inputs in front of the smallest shared position are merged. -/
theorem InOrder.merged_filter (h : InOrder objects namespecs)
    (hshared : Shared objects namespecs position)
    (hleast : ∀ other, Shared objects namespecs other → position ≤ other) :
    Merged (plan objects namespecs) (objects.filter fun object => object.position < position)
      (namespecs.filter fun namespec => namespec.position < position) := by
  rw [h.plan_eq_of_shared hshared hleast]
  refine (h.filter position).merged ?_
  rintro other ⟨hobject, hnamespec⟩
  obtain ⟨object, hmem, rfl⟩ := List.mem_map.mp hobject
  obtain ⟨namespec, hother, heq⟩ := List.mem_map.mp hnamespec
  obtain ⟨hobject, hfront⟩ := List.mem_filter.mp hmem
  have hle := hleast object.position ⟨List.mem_map_of_mem hobject,
    heq ▸ List.mem_map_of_mem (List.mem_filter.mp hother).1⟩
  exact absurd (of_decide_eq_true hfront) (not_lt.mpr hle)

/-- The plan of lists in order holds all inputs exactly if they share no position. -/
theorem InOrder.plan_perm_iff (h : InOrder objects namespecs) :
    (plan objects namespecs).Perm (objects.map .object ++ namespecs.map .namespec) ↔
      ∀ position, ¬ Shared objects namespecs position := by
  constructor
  · intro hperm position hshared
    obtain ⟨least, hleast, hsmallest⟩ := h.exists_least hshared
    obtain ⟨object, hobject, rfl⟩ := List.mem_map.mp hleast.1
    have hplanned : Item.object object ∈ plan objects namespecs :=
      hperm.mem_iff.mpr (List.mem_append_left _ (List.mem_map_of_mem hobject))
    rw [h.plan_eq_of_shared hleast hsmallest] at hplanned
    have hfront := forall_mem_plan (p := fun other => other < object.position) (by simp) (by simp) _
      hplanned
    exact absurd hfront (lt_irrefl _)
  · intro hnone
    exact (h.merged hnone).perm

/-- For lists in order: without a shared position the plan merges them, and otherwise it merges the
inputs in front of the smallest shared position. So it is complete exactly if no position is shared,
and then it is the one arrangement of all inputs. -/
theorem plan_merged_before_shared (h : InOrder objects namespecs) :
    ((∀ position, ¬ Shared objects namespecs position) →
        Merged (plan objects namespecs) objects namespecs) ∧
      (∀ position, Shared objects namespecs position →
        (∀ other, Shared objects namespecs other → position ≤ other) →
        Merged (plan objects namespecs) (objects.filter fun object => object.position < position)
          (namespecs.filter fun namespec => namespec.position < position)) ∧
      ((plan objects namespecs).Perm (objects.map .object ++ namespecs.map .namespec) ↔
        ∀ position, ¬ Shared objects namespecs position) ∧
      ((∀ position, ¬ Shared objects namespecs position) → ∀ items,
        Arranged items (objects.map .object ++ namespecs.map .namespec) ↔
          items = plan objects namespecs) := by
  refine ⟨h.merged, fun position => h.merged_filter, h.plan_perm_iff, fun hnone items => ?_⟩
  have harranged := (h.merged hnone).arranged hnone
  constructor
  · intro hitems
    exact hitems.unique harranged
  · rintro rfl
    exact harranged

/-- Two inputs at position 4 end a plan, and behind them nothing is planned. Repeated and negative
positions within one list do no harm. -/
theorem plan_merged_before_fourth :
    let objects : List ObjectFile := [⟨-2, "a.o"⟩, ⟨1, "b.o"⟩, ⟨1, "c.o"⟩, ⟨4, "d.o"⟩, ⟨9, "e.o"⟩]
    let namespecs : List NameSpec := [⟨-1, .text "m"⟩, ⟨4, .text "n"⟩, ⟨4, .text "o"⟩]
    InOrder objects namespecs ∧ Shared objects namespecs 4 ∧
      Merged (plan objects namespecs) [⟨-2, "a.o"⟩, ⟨1, "b.o"⟩, ⟨1, "c.o"⟩] [⟨-1, .text "m"⟩] ∧
      ¬ (plan objects namespecs).Perm (objects.map .object ++ namespecs.map .namespec) := by
  intro objects namespecs
  have hordered : InOrder objects namespecs := ⟨by decide, by decide, by decide, by decide⟩
  have hshared : Shared objects namespecs 4 := ⟨by decide, by decide⟩
  have hleast : ∀ other, Shared objects namespecs other → 4 ≤ other := by
    intro other hother
    simp only [Shared, objects, namespecs, List.map_cons, List.map_nil, List.mem_cons,
      List.not_mem_nil, or_false] at hother
    omega
  obtain ⟨-, hmerged, hcomplete, -⟩ := plan_merged_before_shared hordered
  exact ⟨hordered, hshared, hmerged 4 hshared hleast, fun hperm => hcomplete.mp hperm 4 hshared⟩

end LinkDriver
