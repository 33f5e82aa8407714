import LinkDriver.Proofs.Plan

/-!
# The merge as rounds of a loop

The merge keeps a cursor in each list. A round takes the input at one cursor, if its position
precedes that at the other, and moves that cursor on; where no round can be made, the merge stops.
Lists of inputs may be in any order here, at any positions.

Read `completes_plan` first: the plan is what rounds from the beginning take, and there the merge
stops. What a single round keeps is said by `Round.takes` and `Round.unique`, what a run of them keeps
by `Rounds.takes` and `Rounds.isPrefix`.
-/

namespace LinkDriver

variable {objects takenObjects : List ObjectFile} {namespecs takenNamespecs : List NameSpec}
  {item : Item} {items : List Item}

/-- Two heads of which neither precedes the other stand at one position. -/
theorem eq_of_not_precedes {first second : Int} (hlater : ¬ Precedes first second)
    (hearlier : ¬ Precedes second first) : first = second := by
  unfold Precedes exhausted at hlater hearlier
  omega

/-- Of two heads at most one precedes the other. -/
theorem Precedes.not_precedes {first second : Int} (h : Precedes first second) :
    ¬ Precedes second first := by
  unfold Precedes exhausted at h ⊢
  omega

/-! ## Rounds -/

/-- The numbers of object files and of namespecs that the merge has taken. -/
structure Cursors where
  objects : Nat
  namespecs : Nat

/-- The position at a cursor, which is that of an exhausted list behind the end. -/
def positionAt (positions : List Int) (cursor : Nat) : Int :=
  positions[cursor]?.getD exhausted

/-- `Round objects namespecs cursors item later` says that at these cursors the merge takes the item,
which stands at the cursor of its list and precedes what stands at the other one. -/
inductive Round (objects : List ObjectFile) (namespecs : List NameSpec) :
    Cursors → Item → Cursors → Prop where
  | object {cursors : Cursors} {object : ObjectFile} :
      objects[cursors.objects]? = some object →
      Precedes object.position
        (positionAt (namespecs.map NameSpec.position) cursors.namespecs) →
      Round objects namespecs cursors (.object object)
        ⟨cursors.objects + 1, cursors.namespecs⟩
  | namespec {cursors : Cursors} {namespec : NameSpec} :
      namespecs[cursors.namespecs]? = some namespec →
      Precedes namespec.position
        (positionAt (objects.map ObjectFile.position) cursors.objects) →
      Round objects namespecs cursors (.namespec namespec)
        ⟨cursors.objects, cursors.namespecs + 1⟩

/-- The items that the merge takes in a number of rounds. -/
inductive Rounds (objects : List ObjectFile) (namespecs : List NameSpec) :
    Cursors → List Item → Cursors → Prop where
  | nil (cursors : Cursors) : Rounds objects namespecs cursors [] cursors
  | cons {cursors middle later : Cursors} {item : Item} {items : List Item} :
      Round objects namespecs cursors item middle →
      Rounds objects namespecs middle items later →
      Rounds objects namespecs cursors (item :: items) later

/-- Why the merge stops at some cursors: both lists are exhausted, or the inputs at the cursors
share a position, or one list is exhausted and the input of the other stands at the position that
stands for this. -/
inductive Stop (objects : List ObjectFile) (namespecs : List NameSpec) : Cursors → Prop where
  | done : Stop objects namespecs ⟨objects.length, namespecs.length⟩
  | shared {cursors : Cursors} {object : ObjectFile} {namespec : NameSpec} :
      objects[cursors.objects]? = some object → namespecs[cursors.namespecs]? = some namespec →
      object.position = namespec.position → Stop objects namespecs cursors
  | objectLeft {cursor : Nat} {object : ObjectFile} :
      objects[cursor]? = some object → object.position = exhausted →
      Stop objects namespecs ⟨cursor, namespecs.length⟩
  | namespecLeft {cursor : Nat} {namespec : NameSpec} :
      namespecs[cursor]? = some namespec → namespec.position = exhausted →
      Stop objects namespecs ⟨objects.length, cursor⟩

variable {start cursors later final : Cursors} {cursor : Nat}

/-- At the cursor of an input stands its position. -/
theorem positionAt_of_getElem? {α : Type} {position : α → Int} {inputs : List α} {input : α}
    (h : inputs[cursor]? = some input) :
    positionAt (inputs.map position) cursor = position input := by
  simp [positionAt, h]

/-- Behind the inputs that were taken stands the head of the others. -/
theorem getElem?_append_length {α : Type} (taken : List α) (input : α) (rest : List α) :
    (taken ++ input :: rest)[taken.length]? = some input := by
  simp

/-- At the end of a list stands the position of an exhausted one. -/
theorem positionAt_length {α : Type} (position : α → Int) (inputs : List α) :
    positionAt (inputs.map position) inputs.length = exhausted := by
  simp [positionAt]

/-- Where the merge stops, both cursors stand at one position. -/
theorem Stop.position_eq (h : Stop objects namespecs cursors) :
    positionAt (objects.map ObjectFile.position) cursors.objects =
      positionAt (namespecs.map NameSpec.position) cursors.namespecs := by
  cases h with
  | done => rw [positionAt_length, positionAt_length]
  | shared hobject hnamespec hposition =>
      rw [positionAt_of_getElem? hobject, positionAt_of_getElem? hnamespec, hposition]
  | objectLeft hobject hposition =>
      rw [positionAt_of_getElem? hobject, positionAt_length, hposition]
  | namespecLeft hnamespec hposition =>
      rw [positionAt_of_getElem? hnamespec, positionAt_length, hposition]

/-- Where the merge stops, no round can be made. -/
theorem Stop.not_round (h : Stop objects namespecs cursors) :
    ¬ Round objects namespecs cursors item later := by
  have hposition := h.position_eq
  intro hround
  cases hround with
  | object hobject hprecedes =>
      rw [← hposition, positionAt_of_getElem? hobject] at hprecedes
      exact hprecedes.not_precedes hprecedes
  | namespec hnamespec hprecedes =>
      rw [hposition, positionAt_of_getElem? hnamespec] at hprecedes
      exact hprecedes.not_precedes hprecedes

/-- At most one round can be made at a time. -/
theorem Round.unique (h : Round objects namespecs cursors item later) {other : Item}
    {beyond : Cursors} (hother : Round objects namespecs cursors other beyond) :
    item = other ∧ later = beyond := by
  cases h with
  | object hobject hprecedes =>
      cases hother with
      | object hsame =>
          obtain rfl := Option.some.inj (hobject.symm.trans hsame)
          exact ⟨rfl, rfl⟩
      | namespec hnamespec hearlier =>
          rw [positionAt_of_getElem? hnamespec] at hprecedes
          rw [positionAt_of_getElem? hobject] at hearlier
          exact absurd hearlier hprecedes.not_precedes
  | namespec hnamespec hprecedes =>
      cases hother with
      | object hobject hearlier =>
          rw [positionAt_of_getElem? hobject] at hprecedes
          rw [positionAt_of_getElem? hnamespec] at hearlier
          exact absurd hearlier hprecedes.not_precedes
      | namespec hsame =>
          obtain rfl := Option.some.inj (hnamespec.symm.trans hsame)
          exact ⟨rfl, rfl⟩

/-- What a round takes is the next input of its list. -/
theorem Round.takes (h : Round objects namespecs cursors item later) :
    objects.take later.objects = objects.take cursors.objects ++ item.object?.toList ∧
      namespecs.take later.namespecs = namespecs.take cursors.namespecs ++ item.namespec?.toList := by
  cases h with
  | object hobject hprecedes =>
      exact ⟨by rw [List.take_add_one, hobject]; rfl, (List.append_nil _).symm⟩
  | namespec hnamespec hprecedes =>
      exact ⟨(List.append_nil _).symm, by rw [List.take_add_one, hnamespec]; rfl⟩

/-! ## Runs of rounds -/

/-- What rounds take are the next inputs of the two lists, in their order. -/
theorem Rounds.takes (h : Rounds objects namespecs cursors items later) :
    objects.take later.objects =
        objects.take cursors.objects ++ items.filterMap Item.object? ∧
      namespecs.take later.namespecs =
        namespecs.take cursors.namespecs ++ items.filterMap Item.namespec? := by
  induction h with
  | nil => exact ⟨(List.append_nil _).symm, (List.append_nil _).symm⟩
  | @cons cursors middle later item items hround hrounds ih =>
      obtain ⟨hobjects, hnamespecs⟩ := hround.takes
      rw [ih.1, ih.2, hobjects, hnamespecs, List.append_assoc, List.append_assoc]
      cases item <;> exact ⟨rfl, rfl⟩

/-- From the beginning, rounds take the first inputs of each list. -/
theorem Rounds.takes_first (h : Rounds objects namespecs ⟨0, 0⟩ items later) :
    items.filterMap Item.object? = objects.take later.objects ∧
      items.filterMap Item.namespec? = namespecs.take later.namespecs :=
  ⟨h.takes.1.symm, h.takes.2.symm⟩

/-- Rounds that were made in front of an item led to the cursors at which it was taken. -/
theorem Rounds.split {front behind : List Item}
    (h : Rounds objects namespecs cursors (front ++ item :: behind) later) :
    ∃ before after, Rounds objects namespecs cursors front before ∧
      Round objects namespecs before item after ∧
      Rounds objects namespecs after behind later := by
  induction front generalizing cursors with
  | nil =>
      cases h with
      | cons hround hrounds => exact ⟨_, _, .nil _, hround, hrounds⟩
  | cons first front ih =>
      cases h with
      | cons hround hrounds =>
          obtain ⟨before, after, hfront, hitem, hbehind⟩ := ih hrounds
          exact ⟨before, after, .cons hround hfront, hitem, hbehind⟩

/-- Rounds that go on until the merge stops take at least what any other rounds do. -/
theorem Rounds.isPrefix {others : List Item}
    (h : Rounds objects namespecs cursors items later)
    (hother : Rounds objects namespecs cursors others final)
    (hstop : Stop objects namespecs final) : items <+: others := by
  induction h generalizing others with
  | nil => exact List.nil_prefix
  | cons hround hrounds ih =>
      cases hother with
      | nil => exact absurd hround hstop.not_round
      | cons hsame hrest =>
          obtain ⟨rfl, rfl⟩ := hround.unique hsame
          exact List.cons_prefix_cons.mpr ⟨rfl, ih hrest⟩

/-! ## The plan -/

/-- From these cursors the merge takes the items, and then it stops. -/
def Completes (objects : List ObjectFile) (namespecs : List NameSpec) (cursors : Cursors)
    (items : List Item) : Prop :=
  ∃ final, Rounds objects namespecs cursors items final ∧ Stop objects namespecs final

/-- The merge takes an object file that precedes what stands at the other cursor. -/
theorem Completes.object {object : ObjectFile}
    (h : Completes (takenObjects ++ [object] ++ objects) namespecs
      ⟨(takenObjects ++ [object]).length, cursor⟩ items)
    (hprecedes : Precedes object.position (positionAt (namespecs.map NameSpec.position) cursor)) :
    Completes (takenObjects ++ object :: objects) namespecs ⟨takenObjects.length, cursor⟩
      (.object object :: items) := by
  obtain ⟨final, hrounds, hstop⟩ := h
  rw [List.append_assoc, List.singleton_append] at hrounds hstop
  rw [List.length_append, List.length_singleton] at hrounds
  exact ⟨final, .cons (.object (getElem?_append_length ..) hprecedes) hrounds, hstop⟩

/-- The merge takes a namespec that precedes what stands at the other cursor. -/
theorem Completes.namespec {namespec : NameSpec}
    (h : Completes objects (takenNamespecs ++ [namespec] ++ namespecs)
      ⟨cursor, (takenNamespecs ++ [namespec]).length⟩ items)
    (hprecedes : Precedes namespec.position
      (positionAt (objects.map ObjectFile.position) cursor)) :
    Completes objects (takenNamespecs ++ namespec :: namespecs) ⟨cursor, takenNamespecs.length⟩
      (.namespec namespec :: items) := by
  obtain ⟨final, hrounds, hstop⟩ := h
  rw [List.append_assoc, List.singleton_append] at hrounds hstop
  rw [List.length_append, List.length_singleton] at hrounds
  exact ⟨final, .cons (.namespec (getElem?_append_length ..) hprecedes) hrounds, hstop⟩

/-- Behind inputs that were taken, the plan of the others is what the merge takes. -/
theorem completes_plan_behind (takenObjects : List ObjectFile) (takenNamespecs : List NameSpec)
    (objects : List ObjectFile) (namespecs : List NameSpec) :
    Completes (takenObjects ++ objects) (takenNamespecs ++ namespecs)
      ⟨takenObjects.length, takenNamespecs.length⟩ (plan objects namespecs) := by
  induction objects, namespecs using plan.induct generalizing takenObjects takenNamespecs with
  | case1 =>
      rw [plan, List.append_nil, List.append_nil]
      exact ⟨_, .nil _, .done⟩
  | case2 object objects hprecedes ih =>
      rw [plan, if_pos hprecedes, List.append_nil]
      refine .object ?_ (by rwa [positionAt_length])
      simpa only [List.append_nil] using ih (takenObjects ++ [object]) takenNamespecs
  | case3 object objects hprecedes =>
      rw [plan, if_neg hprecedes, List.append_nil]
      refine ⟨_, .nil _, .objectLeft (getElem?_append_length ..) ?_⟩
      exact eq_of_not_precedes hprecedes fun hexhausted => hexhausted.1 rfl
  | case4 namespec namespecs hprecedes ih =>
      rw [plan, if_pos hprecedes, List.append_nil]
      refine .namespec ?_ (by rwa [positionAt_length])
      simpa only [List.append_nil] using ih takenObjects (takenNamespecs ++ [namespec])
  | case5 namespec namespecs hprecedes =>
      rw [plan, if_neg hprecedes, List.append_nil]
      refine ⟨_, .nil _, .namespecLeft (getElem?_append_length ..) ?_⟩
      exact eq_of_not_precedes hprecedes fun hexhausted => hexhausted.1 rfl
  | case6 object objects namespec namespecs hprecedes ih =>
      rw [plan, if_pos hprecedes]
      refine .object (ih (takenObjects ++ [object]) takenNamespecs) ?_
      rwa [positionAt_of_getElem? (getElem?_append_length ..)]
  | case7 object objects namespec namespecs hlater hprecedes ih =>
      rw [plan, if_neg hlater, if_pos hprecedes]
      refine .namespec (ih takenObjects (takenNamespecs ++ [namespec])) ?_
      rwa [positionAt_of_getElem? (getElem?_append_length ..)]
  | case8 object objects namespec namespecs hlater hearlier =>
      rw [plan, if_neg hlater, if_neg hearlier]
      exact ⟨_, .nil _, .shared (getElem?_append_length ..) (getElem?_append_length ..)
        (eq_of_not_precedes hlater hearlier)⟩

/-- The plan is what the merge takes from the beginning of both lists. -/
theorem completes_plan (objects : List ObjectFile) (namespecs : List NameSpec) :
    Completes objects namespecs ⟨0, 0⟩ (plan objects namespecs) :=
  completes_plan_behind [] [] objects namespecs

/-- Lists of inputs in any order, at any positions, are merged in rounds, of which there are no more
than inputs: whatever rounds are made, they begin the plan. It consists of the first object files
and the first namespecs, both in their order. Each of its items was taken in a round, and so
preceded what stood at the other cursor; and the merge stops only where both cursors stand at one
position. -/
theorem plan_of_any_positions (objects : List ObjectFile) (namespecs : List NameSpec) :
    ∃ final, Rounds objects namespecs ⟨0, 0⟩ (plan objects namespecs) final ∧
      Stop objects namespecs final ∧
      positionAt (objects.map ObjectFile.position) final.objects =
        positionAt (namespecs.map NameSpec.position) final.namespecs ∧
      (plan objects namespecs).filterMap Item.object? = objects.take final.objects ∧
      (plan objects namespecs).filterMap Item.namespec? = namespecs.take final.namespecs ∧
      (plan objects namespecs).length ≤ objects.length + namespecs.length ∧
      (∀ items later, Rounds objects namespecs ⟨0, 0⟩ items later →
        items <+: plan objects namespecs) ∧
      ∀ front item behind, plan objects namespecs = front ++ item :: behind →
        ∃ before after, Rounds objects namespecs ⟨0, 0⟩ front before ∧
          Round objects namespecs before item after := by
  obtain ⟨final, hrounds, hstop⟩ := completes_plan objects namespecs
  obtain ⟨hobjects, hnamespecs⟩ := hrounds.takes_first
  refine ⟨final, hrounds, hstop, hstop.position_eq, hobjects, hnamespecs, ?_, ?_, ?_⟩
  · have hcount := (perm_objects_append_namespecs (plan objects namespecs)).length_eq
    rw [hobjects, hnamespecs, List.length_append, List.length_map, List.length_map,
      List.length_take, List.length_take] at hcount
    omega
  · intro items later hother
    exact hother.isPrefix hrounds hstop
  · intro front item behind hplan
    rw [hplan] at hrounds
    obtain ⟨before, after, hfront, hitem, -⟩ := hrounds.split
    exact ⟨before, after, hfront, hitem⟩

end LinkDriver
