import LinkDriver.CommandLine.Reading

/-!
# Readings without a complaint

`ReadsAs position tokens elements` says what one argument is read as, together with the separate
value that it takes, and `Reads` strings such steps together. Read `reads_iff` first: `read` ends
without a complaint exactly when its elements come about in this way. What holds of every step
then holds of every complaint-free reading, by induction on `Reads`.
-/

namespace LinkDriver.CommandLine

/-! ## Clusters -/

/-- Only flags run on, and only an option with a value has text attached to it in the end. -/
theorem runOn_shape {opt : Opt} {text : List Char} {options : Cluster}
    (h : runOn opt text = .ok options) :
    (∀ flag ∈ options.flags, flag.takesValue = false) ∧
      (options.attached.isSome → options.last.takesValue = true) := by
  induction text generalizing opt options with
  | nil =>
      obtain rfl : ⟨[], opt, none⟩ = options := by simpa [runOn] using h
      simp
  | cons c rest ih =>
      unfold runOn at h
      split at h
      · rename_i hvalue
        obtain rfl := Except.ok.inj h
        exact ⟨by simp, fun _ => hvalue⟩
      · rename_i hvalue
        split at h
        · exact absurd h (by simp)
        · rename_i next _
          cases hnext : runOn next rest with
          | error complaint => simp [hnext, Except.map] at h
          | ok more =>
              simp only [hnext, Except.map, Except.ok.injEq] at h
              subst h
              obtain ⟨hflags, hattached⟩ := ih hnext
              refine ⟨?_, hattached⟩
              intro flag hflag
              simp only [Cluster.behind, List.mem_cons] at hflag
              rcases hflag with rfl | hflag
              · simpa using hvalue
              · exact hflags flag hflag

/-- Running on from a flag puts it in front of the cluster. -/
theorem runOn_cons {opt : Opt} {c : Char} {rest : List Char} {options : Cluster}
    (hvalue : opt.takesValue = false) (h : runOn opt (c :: rest) = .ok options) :
    ∃ others, options.flags = opt :: others := by
  unfold runOn at h
  rw [if_neg (by simp [hvalue])] at h
  split at h
  · exact absurd h (by simp)
  · rename_i next _
    cases hnext : runOn next rest with
    | error complaint => simp [hnext, Except.map] at h
    | ok more =>
        simp only [hnext, Except.map, Except.ok.injEq] at h
        subst h
        exact ⟨more.flags, rfl⟩

/-- The options in an argument are a single option with what is attached to it, or a flag that ran
on through it. -/
theorem cluster_cases {opt : Opt} {long : Bool} {attached : Option String} {options : Cluster}
    (h : cluster opt long attached = .ok options) :
    (options = ⟨[], opt, attached⟩ ∧ (attached.isSome → opt.takesValue = true)) ∨
      ∃ text others, attached = some text ∧ options.flags = opt :: others ∧
        (∀ flag ∈ opt :: others, flag.takesValue = false) ∧
          (options.attached.isSome → options.last.takesValue = true) := by
  cases attached with
  | none =>
      left
      simp only [cluster, Except.ok.injEq] at h
      exact ⟨h.symm, by simp⟩
  | some text =>
      simp only [cluster] at h
      split at h
      · rename_i hvalue
        left
        exact ⟨(Except.ok.inj h).symm, fun _ => hvalue⟩
      · rename_i hvalue
        split at h
        · exact absurd h (by simp)
        · rename_i hrun
          right
          -- Nothing runs on through an empty text, so the flag is followed by another option.
          have hnil : text.toList ≠ [] := by
            intro hnil
            exact hrun (by simp [String.toList_eq_nil_iff.mp hnil])
          obtain ⟨c, rest, htext⟩ := List.exists_cons_of_ne_nil hnil
          have hflag : opt.takesValue = false := by simpa using hvalue
          rw [htext] at h
          obtain ⟨others, hothers⟩ := runOn_cons hflag h
          obtain ⟨hflags, hattached⟩ := runOn_shape h
          exact ⟨text, others, rfl, hothers, hothers ▸ hflags, hattached⟩

/-- Where the last option of an argument takes no value, nothing is attached to it. -/
theorem cluster_attached {opt : Opt} {long : Bool} {attached : Option String} {options : Cluster}
    (h : cluster opt long attached = .ok options) (hvalue : options.last.takesValue = false) :
    options.attached = none := by
  have hsome : options.attached.isSome → options.last.takesValue = true := by
    rcases cluster_cases h with ⟨rfl, hsingle⟩ | ⟨_, _, -, -, -, hrun⟩
    · exact hsingle
    · exact hrun
  cases hattached : options.attached with
  | none => rfl
  | some text => simp [hvalue, hattached] at hsome

/-! ## Steps of a reading -/

/-- `Supplied opt attached separate argument` says how `opt` comes by its value, from the text
attached to it or from the arguments behind it. -/
inductive Supplied (opt : Opt) : Option String → List String → Argument → Prop where
  | absent : opt.takesValue = false → Supplied opt none [] .absent
  | attached (text : String) : opt.takesValue = true →
      Supplied opt (some text) [] (.attached (attachedValue text))
  | separate (value : String) : opt.takesValue = true → classify value = .operand →
      Supplied opt none [value] (.separate value)

/-- `ReadsAs position tokens elements` says the argument at `position`, with the separate value
behind it, is read as `elements`. -/
inductive ReadsAs (position : Nat) : List String → List Element → Prop where
  | operand (text : String) : classify text = .operand →
      ReadsAs position [text] [.operand position text]
  | unknown (text : String) : classify text = .unknown →
      ReadsAs position [text] [.unknown text]
  | single {text : String} {opt : Opt} {long : Bool} {attached : Option String}
      {separate : List String} {argument : Argument} :
      classify text = .use opt long attached → Supplied opt attached separate argument →
      ReadsAs position (text :: separate) [.use ⟨opt, position, false, argument⟩]
  | cluster {text run : String} {first last : Opt} {others : List Opt} {long : Bool}
      {attached : Option String} {separate : List String} {argument : Argument} :
      classify text = .use first long (some run) →
      CommandLine.cluster first long (some run) = .ok ⟨first :: others, last, attached⟩ →
      (∀ flag ∈ first :: others, flag.takesValue = false) →
      Supplied last attached separate argument →
      ReadsAs position (text :: separate)
        (.use ⟨first, position, false, .absent⟩ ::
          others.map (fun flag => .use ⟨flag, position, true, .absent⟩) ++
            [.use ⟨last, position, true, argument⟩])

/-- `Reads position tokens elements` says `tokens`, the first of which has the given position, are
read as `elements`. -/
inductive Reads : Nat → List String → List Element → Prop where
  | nil (position : Nat) : Reads position [] []
  | step {position : Nat} {tokens rest : List String} {elements more : List Element} :
      ReadsAs position tokens elements → Reads (position + tokens.length) rest more →
      Reads position (tokens ++ rest) (elements ++ more)

/-- The elements of a cluster are its first flag, the flags behind it, and its last option. -/
theorem mem_cluster_iff {position : Nat} {first last : Opt} {others : List Opt}
    {argument : Argument} {element : Element} :
    element ∈ Element.use ⟨first, position, false, .absent⟩ ::
        others.map (fun flag => .use ⟨flag, position, true, .absent⟩) ++
          [.use ⟨last, position, true, argument⟩] ↔
      element = .use ⟨first, position, false, .absent⟩ ∨
        (∃ flag ∈ others, element = .use ⟨flag, position, true, .absent⟩) ∨
          element = .use ⟨last, position, true, argument⟩ := by
  simp [eq_comm]

/-- A cluster whose last option is supplied is one step of a reading. -/
theorem readsAs_of_cluster {position : Nat} {text : String} {opt : Opt} {long : Bool}
    {attached : Option String} {options : Cluster} {separate : List String} {argument : Argument}
    (hclass : classify text = .use opt long attached)
    (hcluster : cluster opt long attached = .ok options)
    (hsupplied : Supplied options.last options.attached separate argument) :
    ReadsAs position (text :: separate) (options.elements position argument) := by
  rcases cluster_cases hcluster with ⟨rfl, -⟩ | ⟨run, others, rfl, hflags, hnone, -⟩
  · exact .single hclass hsupplied
  · obtain ⟨flags, last, rest⟩ := options
    obtain rfl : flags = opt :: others := hflags
    exact .cluster hclass hcluster hnone hsupplied

/-- A reading without a complaint is made of steps. -/
theorem reads_of_complaint {position : Nat} {tokens : List String}
    (h : (read position tokens).complaint = none) :
    Reads position tokens (read position tokens).elements := by
  -- Each case in which the reading goes on is a step, the others end with a complaint.
  fun_induction read position tokens with
  | case1 position => exact .nil position
  | case2 position argument rest hclass ih => exact .step (.operand argument hclass) (ih h)
  | case3 position argument rest hclass ih => exact .step (.unknown argument hclass) (ih h)
  | case4 => exact absurd h (by simp)
  | case5 position argument rest opt long attached hclass options hcluster hvalue text htext ih =>
      have hsupplied : Supplied options.last options.attached []
          (.attached (attachedValue text)) := by
        rw [htext]
        exact .attached text hvalue
      exact .step (readsAs_of_cluster hclass hcluster hsupplied) (ih h)
  | case6 => exact absurd h (by simp)
  | case7 position argument opt long attached hclass options hcluster hvalue hattached value others
      hoperand ih =>
      have hsupplied : Supplied options.last options.attached [value] (.separate value) := by
        rw [hattached]
        exact .separate value hvalue hoperand
      exact .step (readsAs_of_cluster hclass hcluster hsupplied) (ih h)
  | case8 => exact absurd h (by simp)
  | case9 position argument rest opt long attached hclass options hcluster hvalue ih =>
      have hnone : options.last.takesValue = false := by simpa using hvalue
      have hsupplied : Supplied options.last options.attached [] .absent := by
        rw [cluster_attached hcluster hnone]
        exact .absent hnone
      exact .step (readsAs_of_cluster hclass hcluster hsupplied) (ih h)

/-- The steps of a reading are what `read` finds. -/
theorem read_of_readsAs {position : Nat} {tokens rest : List String} {elements : List Element}
    (h : ReadsAs position tokens elements) :
    read position (tokens ++ rest) = (read (position + tokens.length) rest).after elements := by
  cases h with
  | operand text hclass => simp [read, hclass]
  | unknown text hclass => simp [read, hclass]
  | @single text opt long attached separate argument hclass hsupplied =>
      have hcluster : cluster opt long attached = .ok ⟨[], opt, attached⟩ := by
        cases hsupplied <;> simp_all [cluster]
      cases hsupplied <;> simp_all [read, Cluster.elements]
  | cluster hclass hcluster hnone hsupplied =>
      cases hsupplied <;> simp_all [read, Cluster.elements]

/-- The complaint-free readings are those made of steps. -/
theorem reads_iff {position : Nat} {tokens : List String} {elements : List Element} :
    Reads position tokens elements ↔ read position tokens = ⟨elements, none⟩ := by
  constructor
  · intro h
    induction h with
    | nil => simp [read]
    | step hstep _ ih => rw [read_of_readsAs hstep, ih]; rfl
  · intro h
    have hcomplaint : (read position tokens).complaint = none := by rw [h]
    have hreads := reads_of_complaint hcomplaint
    rwa [h] at hreads

/-! ## Where elements stand -/

/-- Every element of a reading comes from a step at the position that the step was read at. -/
theorem Reads.step_of_mem {position : Nat} {tokens : List String} {elements : List Element}
    (h : Reads position tokens elements) {element : Element} (hmem : element ∈ elements) :
    ∃ index group found, group <+: tokens.drop index ∧
      ReadsAs (position + index) group found ∧ element ∈ found := by
  induction h with
  | nil => simp at hmem
  | @step position group rest found more hstep _ ih =>
      rcases List.mem_append.mp hmem with hmem | hmem
      · exact ⟨0, group, found, List.prefix_append group rest, hstep, hmem⟩
      · -- A later step stands behind all arguments of this one.
        obtain ⟨index, later, others, hbegins, hothers, helement⟩ := ih hmem
        refine ⟨group.length + index, later, others, ?_, ?_, helement⟩
        · rwa [List.drop_length_add_append]
        · rwa [← Nat.add_assoc]

/-- What stands in the first of some arguments stands in all of them. -/
theorem getElem?_of_begins {first whole : List String} (h : first <+: whole) {index : Nat}
    {text : String} (hsome : first[index]? = some text) : whole[index]? = some text := by
  obtain ⟨hlt, -⟩ := List.getElem?_eq_some_iff.mp hsome
  obtain ⟨rest, rfl⟩ := h
  rw [List.getElem?_append_left hlt, hsome]

/-- What begins behind an index stands there. -/
theorem getElem?_of_prefix_drop {tokens group : List String} {index : Nat}
    (h : group <+: tokens.drop index) (offset : Nat) (hoffset : offset < group.length) :
    tokens[index + offset]? = group[offset]? := by
  obtain ⟨rest, hrest⟩ := h
  rw [← List.getElem?_drop, ← hrest, List.getElem?_append_left hoffset]

/-- An operand stands at its position. -/
theorem Reads.operand_at {position : Nat} {tokens : List String} {elements : List Element}
    (h : Reads position tokens elements) {place : Nat} {text : String}
    (hmem : .operand place text ∈ elements) :
    ∃ index, place = position + index ∧ tokens[index]? = some text := by
  obtain ⟨index, group, found, hbegins, hstep, hfound⟩ := h.step_of_mem hmem
  cases hstep with
  | operand =>
      obtain ⟨rfl, rfl⟩ : place = position + index ∧ text = _ := by simpa using hfound
      refine ⟨index, rfl, ?_⟩
      simpa using getElem?_of_prefix_drop hbegins 0 (by simp)
  | unknown | single | cluster => simp at hfound

/-! ## Occurrences -/

/-- The occurrences of a reading are its elements that use an option. -/
theorem Reading.mem_occurrences {reading : Reading} {occurrence : Occurrence} :
    occurrence ∈ reading.occurrences ↔ .use occurrence ∈ reading.elements := by
  simp only [occurrences, List.mem_filterMap]
  constructor
  · intro h
    obtain ⟨element, hmem, helement⟩ := h
    cases element <;> simp_all
  · intro hmem
    exact ⟨_, hmem, rfl⟩

/-- An option comes by a value exactly if it takes one. -/
theorem Supplied.takesValue_iff {opt : Opt} {attached : Option String} {separate : List String}
    {argument : Argument} (h : Supplied opt attached separate argument) :
    opt.takesValue = true ↔ argument ≠ .absent := by
  cases h with
  | absent hnone => simp [hnone]
  | attached text hvalue => simp [hvalue]
  | separate value hvalue => simp [hvalue]

theorem Reads.takesValue_iff {position : Nat} {tokens : List String} {elements : List Element}
    (h : Reads position tokens elements) {occurrence : Occurrence}
    (hmem : .use occurrence ∈ elements) :
    occurrence.opt.takesValue = true ↔ occurrence.argument ≠ .absent := by
  induction h with
  | nil => simp at hmem
  | step hstep _ ih =>
      rcases List.mem_append.mp hmem with hmem | hmem
      · cases hstep with
        | operand | unknown => simp at hmem
        | single hclass hsupplied =>
            obtain rfl : occurrence = _ := by simpa using hmem
            exact hsupplied.takesValue_iff
        | cluster hclass hcluster hnone hsupplied =>
            rcases mem_cluster_iff.mp hmem with hfirst | ⟨flag, hflag, hother⟩ | hlast
            · obtain rfl := Element.use.inj hfirst
              simp [hnone _ (List.mem_cons_self ..)]
            · obtain rfl := Element.use.inj hother
              simp [hnone _ (List.mem_cons_of_mem _ hflag)]
            · obtain rfl := Element.use.inj hlast
              exact hsupplied.takesValue_iff
      · exact ih hmem

end LinkDriver.CommandLine
