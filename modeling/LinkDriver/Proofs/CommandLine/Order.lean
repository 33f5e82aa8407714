import LinkDriver.Proofs.CommandLine.NamedInputs
import LinkDriver.Proofs.CommandLine.ScannedInputs
import LinkDriver.Proofs.Session

/-!
# When the order of the command line is kept

A session that returns has linked some inputs at some positions. Read `order_kept_iff` first: they
are the inputs that the command line names, each at its own argument, exactly if no operand begins
with a hyphen. The counts of the scan cannot tell such an operand from a value that a cluster takes
in its place, and then the positions belong to other arguments.
-/

namespace LinkDriver.CommandLine

/-! ## What the scan finds -/

/-- Where the scan and the reading see the same operands, the scan places them right. -/
theorem objectsAt_scanned {reading : Reading} (hdashed : reading.dashedOperands = 0)
    (hvalues : reading.clusteredValues = 0) :
    objectsAt (reading.elements.filterMap Element.scannedObject?) reading.operands =
      reading.inputs.filterMap Item.object? := by
  obtain ⟨elements, complaint⟩ := reading
  have hplain := List.countP_eq_zero.mp hdashed
  have hfree := List.countP_eq_zero.mp hvalues
  simp only [objectsAt, Reading.operands, Reading.inputs]
  clear hdashed hvalues
  induction elements with
  | nil => rfl
  | cons element rest ih =>
      have hrest := ih (fun other hmem => hplain other (List.mem_cons_of_mem _ hmem))
        (fun other hmem => hfree other (List.mem_cons_of_mem _ hmem))
      cases element with
      | operand position text =>
          have htext : isOptionLike text = false := by
            simpa using hplain (.operand position text) (List.mem_cons_self ..)
          simpa [htext, Item.object?] using hrest
      | unknown text => exact hrest
      | use occurrence =>
          have hnone : Element.scannedObject? (.use occurrence) = none := by
            have huse := hfree (.use occurrence) (List.mem_cons_self ..)
            obtain ⟨opt, position, clustered, argument⟩ := occurrence
            cases clustered <;> cases argument <;> simp_all
          rw [List.filterMap_cons_none hnone]
          by_cases hopt : occurrence.opt = .library
          · have hinput : Element.input? (.use occurrence) =
                some (.namespec ⟨occurrence.position, occurrence.value⟩) := by simp [hopt]
            rw [List.filterMap_cons_some hinput, List.filterMap_cons_none rfl]
            exact hrest
          · have hinput : Element.input? (.use occurrence) = none := by simp [hopt]
            rw [List.filterMap_cons_none hinput]
            exact hrest

/-- What the scan takes for an object file does not begin with a hyphen, unless it is one. -/
theorem Reads.scannedObject_at {position : Nat} {tokens : List String} {elements : List Element}
    (h : Reads position tokens elements) {place : Nat}
    (hmem : place ∈ elements.filterMap Element.scannedObject?) :
    ∃ index text, place = position + index ∧ tokens[index]? = some text ∧
      isOptionLike text = false := by
  obtain ⟨element, helement, hplace⟩ := List.mem_filterMap.mp hmem
  obtain ⟨index, group, found, hbegins, hstep, hfound⟩ := h.step_of_mem helement
  cases hstep with
  | operand text =>
      obtain rfl : element = .operand (position + index) text := by simpa using hfound
      simp only [Element.scannedObject?, Option.ite_none_left_eq_some, Option.some.injEq] at hplace
      refine ⟨index, text, hplace.2.symm, ?_, by simpa using hplace.1⟩
      simpa using getElem?_of_prefix_drop hbegins 0 (by simp)
  | unknown text =>
      obtain rfl : element = .unknown text := by simpa using hfound
      exact absurd hplace (by simp)
  | single hclass hsupplied =>
      obtain rfl := List.mem_singleton.mp hfound
      exact absurd hplace (by simp)
  | @cluster text run first last others long attached separate argument hclass hcluster hnone
      hsupplied =>
      -- Only the separate value behind a cluster is taken for an object file.
      rcases mem_cluster_iff.mp hfound with rfl | ⟨flag, -, rfl⟩ | rfl
      · exact absurd hplace (by simp)
      · exact absurd hplace (by simp)
      · cases hsupplied with
        | absent | attached => exact absurd hplace (by simp)
        | separate value =>
            simp only [Element.scannedObject?, Option.ite_none_left_eq_some,
              Option.some.injEq] at hplace
            refine ⟨index + 1, value, hplace.2.symm, ?_, by simpa using hplace.1⟩
            simpa using getElem?_of_prefix_drop hbegins 1 (by simp)

/-! ## The inputs of the link options -/

namespace AcceptedAs

variable {σ : Type} {host : Host} {commandLine : List String} {arguments : Arguments} {state : σ}
  {options : LinkOptions}

/-- The objects of an accepted command line, those in front of the end of the options and those
behind it. -/
theorem objects_eq (h : AcceptedAs host commandLine arguments)
    (hresolve : ((resolve arguments commandLine).run state).result = .ok options) :
    ((readingOf commandLine).elements.filterMap Element.scannedObject?).length =
        (readingOf commandLine).operands.length ∧
      options.objects = some
        (objectsAt ((readingOf commandLine).elements.filterMap Element.scannedObject?)
            (readingOf commandLine).operands ++
          objectsBehind commandLine) := by
  obtain ⟨hobjects, -, rfl⟩ := resolve_eq_ok_iff.mp hresolve
  rw [(positions_eq h.complaint).1, h.objects] at hobjects
  have hlength : ((readingOf commandLine).elements.filterMap Element.scannedObject?).length =
      (readingOf commandLine).operands.length := by
    simp only [List.length_append, List.length_range'] at hobjects
    omega
  refine ⟨hlength, ?_⟩
  show some (objectsAt _ _) = _
  rw [(positions_eq h.complaint).1, h.objects]
  unfold objectsBehind objectsAt
  rw [List.zipWith_append hlength]

/-- The namespecs of an accepted command line are those that it names. -/
theorem namespecs_eq_named (h : AcceptedAs host commandLine arguments)
    (hresolve : ((resolve arguments commandLine).run state).result = .ok options) :
    options.namespecs = some ((namedInputs commandLine).filterMap Item.namespec?) := by
  rw [(h.namespecs_eq hresolve).2]
  congr 1
  have hbehind : ((objectsBehind commandLine).map Item.object).filterMap Item.namespec? = [] := by
    simp [Item.namespec?]
  unfold namedInputs
  rw [List.filterMap_append, hbehind, List.append_nil]
  unfold Reading.libraries Reading.occurrences Reading.inputs
  induction (readingOf commandLine).elements with
  | nil => rfl
  | cons element rest ih =>
      cases element with
      | operand | unknown => exact ih
      | use occurrence =>
          by_cases hopt : occurrence.opt = .library <;>
            simpa [hopt, Item.namespec?] using ih

/-- Where no operand begins with a hyphen, the objects are those that the command line names. -/
theorem objects_eq_named (h : AcceptedAs host commandLine arguments)
    (hresolve : ((resolve arguments commandLine).run state).result = .ok options)
    (hdashed : (readingOf commandLine).dashedOperands = 0) :
    options.objects = some ((namedInputs commandLine).filterMap Item.object?) := by
  obtain ⟨hlength, hobjects⟩ := h.objects_eq hresolve
  have hcount := (readingOf commandLine).length_scannedObjects
  have hvalues : (readingOf commandLine).clusteredValues = 0 := by omega
  have hbehind : ((objectsBehind commandLine).map Item.object).filterMap Item.object? =
      objectsBehind commandLine := by
    rw [List.filterMap_map]
    exact List.filterMap_some
  rw [hobjects, objectsAt_scanned hdashed hvalues]
  unfold namedInputs
  rw [List.filterMap_append, hbehind]

/-- Objects that stand where their positions say leave no operand with a hyphen. -/
theorem dashedOperands_eq_zero (h : AcceptedAs host commandLine arguments)
    (hresolve : ((resolve arguments commandLine).run state).result = .ok options)
    (hstand : ∀ object ∈ options.objects.getD [], Stands commandLine (.object object)) :
    (readingOf commandLine).dashedOperands = 0 := by
  have hreads := reads_of_complaint h.complaint
  obtain ⟨hlength, hobjects⟩ := h.objects_eq hresolve
  apply List.countP_eq_zero.mpr
  intro element hmem hdashed
  cases element with
  | unknown | use => simp at hdashed
  | operand position text =>
      have htext : text ∈ (readingOf commandLine).operands :=
        List.mem_filterMap.mpr ⟨_, hmem, rfl⟩
      obtain ⟨number, hnumber⟩ := List.mem_iff_getElem?.mp htext
      obtain ⟨hlt, -⟩ := List.getElem?_eq_some_iff.mp hnumber
      obtain ⟨place, hplace⟩ : ∃ place : Nat, ((readingOf commandLine).elements.filterMap
          Element.scannedObject?)[number]? = some place :=
        ⟨_, List.getElem?_eq_getElem (by omega)⟩
      have hobject : ⟨place, text⟩ ∈ options.objects.getD [] := by
        rw [hobjects]
        refine List.mem_append_left _ (List.mem_of_getElem? (i := number) ?_)
        unfold objectsAt
        rw [List.getElem?_zipWith, hplace, hnumber]
      -- The scan found another argument at the position of the operand.
      obtain ⟨index, hposition, hat⟩ := hstand _ hobject
      obtain ⟨other, value, hother, hvalue, hlike⟩ :=
        hreads.scannedObject_at (List.mem_of_getElem? hplace)
      have hindex : index = other := by
        have hposition : (place : Int) = index + 1 := hposition
        omega
      have hsame : some text = some value := by
        rw [← hat, hindex, getElem?_of_begins (beforeEnd_begins commandLine) hvalue]
      obtain rfl := Option.some.inj hsame
      simp [hlike] at hdashed

/-- Where an engine has taken all inputs of the plan, the command line names no blank library. -/
theorem not_isBlank (h : AcceptedAs host commandLine arguments)
    (hresolve : ((resolve arguments commandLine).run state).result = .ok options)
    {namespecs : List NameSpec} (hnamespecs : options.namespecs = some namespecs)
    (hwhole : ∀ item ∈ plan (options.objects.getD []) namespecs, ¬ Recording.IsBlank item) :
    ∀ item ∈ namedInputs commandLine, ¬ Recording.IsBlank item := by
  rintro _ hmem ⟨spec, rfl, hblank⟩
  have hspec : spec ∈ namespecs := by
    obtain rfl := Option.some.inj (hnamespecs.symm.trans (h.namespecs_eq_named hresolve))
    exact List.mem_filterMap.mpr ⟨_, hmem, rfl⟩
  obtain ⟨objects, found, hobjects, hfound, hlabelled⟩ := labelled_of_resolve hresolve
  obtain rfl : namespecs = found := Option.some.inj (hnamespecs.symm.trans hfound)
  rw [hobjects, Option.getD_some] at hwhole
  exact hwhole _ (namespec_mem_plan hlabelled.apart hspec) ⟨spec, rfl, hblank⟩

end AcceptedAs

/-! ## The order of a session -/

/-- A session with a recording engine that returns, by a command line with these arguments and
options. The inputs that the command line names have ascending positions and stand at them. They
are the inputs of the engine, in this order, and every object file of the options stands at its
position, exactly if no operand in front of the end of the options begins with a hyphen. -/
theorem order_kept_iff {host : Host} {failures : Recording.Failures} {commandLine : List String}
    {arguments : Arguments} {options : LinkOptions}
    (hreturned : (Session.linkRecording host failures commandLine).2.ending = .returned)
    (hparse : (parse host commandLine).result = .ok arguments)
    (hresolve : ((resolve arguments commandLine).run Recording.State.new).result = .ok options) :
    ((namedInputs commandLine).Pairwise fun first second => first.position < second.position) ∧
      (∀ item ∈ namedInputs commandLine, Stands commandLine item) ∧
      (((Session.linkRecording host failures commandLine).1.inputs =
            (namedInputs commandLine).map Recording.word ∧
          ∀ object ∈ options.objects.getD [], Stands commandLine (.object object)) ↔
        (readingOf commandLine).dashedOperands = 0) := by
  have haccepted := parse_eq_ok_iff.mp hparse
  obtain ⟨hpositive, hascending⟩ := haccepted.namedInputs_ascending
  obtain ⟨namespecs, hnamespecs, hinputs, hwhole⟩ :
      ∃ namespecs, options.namespecs = some namespecs ∧
        (Session.linkRecording host failures commandLine).1.inputs =
          (plan (options.objects.getD []) namespecs).map Recording.word ∧
        ∀ item ∈ plan (options.objects.getD []) namespecs, ¬ Recording.IsBlank item := by
    -- A command line has one reading, so the session went by these arguments and options.
    obtain ⟨others, found, namespecs, hothers, hfound, hrest⟩ :=
      Session.linkRecording_returned hreturned
    obtain rfl : arguments = others := Except.ok.inj (hparse.symm.trans hothers)
    obtain rfl : options = found := Except.ok.inj (hresolve.symm.trans hfound)
    exact ⟨namespecs, hrest⟩
  have hclusters := (haccepted.namespecs_eq hresolve).1
  have hstand := haccepted.namedInputs_stand hclusters
    (haccepted.not_isBlank hresolve hnamespecs hwhole)
  refine ⟨hascending, hstand, ?_⟩
  constructor
  · intro h
    obtain ⟨-, hobjects⟩ := h
    exact haccepted.dashedOperands_eq_zero hresolve hobjects
  · intro hdashed
    have hobjects := haccepted.objects_eq_named hresolve hdashed
    obtain rfl := Option.some.inj (hnamespecs.symm.trans (haccepted.namespecs_eq_named hresolve))
    -- The two lists are those of the named inputs, and the merge restores their order.
    rw [hobjects, Option.getD_some, plan_of_ascending hpositive hascending] at hinputs
    refine ⟨hinputs, ?_⟩
    intro object hmem
    rw [hobjects, Option.getD_some] at hmem
    obtain ⟨item, hitem, hobject⟩ := List.mem_filterMap.mp hmem
    cases item with
    | namespec => exact absurd hobject (by simp [Item.object?])
    | object file =>
        obtain rfl : file = object := Option.some.inj hobject
        exact hstand _ hitem

/-- An operand that begins with a hyphen is linked in the place of the value that a cluster takes,
and so in front of the library that was named before it. -/
theorem order_lost_behind_cluster :
    (Session.linkRecording (Host.new (some "/work")) (fun _ => .never)
        ["-vo", "out", "-lm", "-1"]).2.ending = .returned ∧
      (Session.linkRecording (Host.new (some "/work")) (fun _ => .never)
        ["-vo", "out", "-lm", "-1"]).1.inputs = ["-1", "-lm"] ∧
      (namedInputs ["-vo", "out", "-lm", "-1"]).map Recording.word = ["-lm", "-1"] ∧
      ∃ arguments options,
        (parse (Host.new (some "/work")) ["-vo", "out", "-lm", "-1"]).result = .ok arguments ∧
          ((resolve arguments ["-vo", "out", "-lm", "-1"]).run
            Recording.State.new).result = .ok options ∧
          options.objects = some [⟨2, "-1"⟩] ∧
          ["-vo", "out", "-lm", "-1"][1]? = some "out" := by
  refine ⟨?_, ?_, ?_, _, _, rfl, rfl, rfl, rfl⟩ <;> decide +kernel

/-- A value inside a cluster leaves the order as it is, and so does a hyphen behind the end of the
options. -/
theorem order_kept_beside_cluster :
    (Session.linkRecording (Host.new (some "/work")) (fun _ => .never)
        ["-voout", "-lm", "a.o", "--", "-1"]).2.ending = .returned ∧
      ∃ arguments options,
        (parse (Host.new (some "/work")) ["-voout", "-lm", "a.o", "--", "-1"]).result =
            .ok arguments ∧
          ((resolve arguments ["-voout", "-lm", "a.o", "--", "-1"]).run
            Recording.State.new).result = .ok options ∧
          (Session.linkRecording (Host.new (some "/work")) (fun _ => .never)
              ["-voout", "-lm", "a.o", "--", "-1"]).1.inputs =
            (namedInputs ["-voout", "-lm", "a.o", "--", "-1"]).map Recording.word ∧
          ∀ object ∈ options.objects.getD [],
            Stands ["-voout", "-lm", "a.o", "--", "-1"] (.object object) := by
  have hreturned : (Session.linkRecording (Host.new (some "/work")) (fun _ => .never)
      ["-voout", "-lm", "a.o", "--", "-1"]).2.ending = .returned := by decide +kernel
  refine ⟨hreturned, _, _, rfl, rfl, ?_⟩
  exact (order_kept_iff hreturned rfl rfl).2.2.mpr (by decide +kernel)

end LinkDriver.CommandLine
