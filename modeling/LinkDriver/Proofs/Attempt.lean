import LinkDriver.Attempt
import LinkDriver.Proofs.OutputPath

/-!
# Link attempts

An attempt settles all it needs before it invokes its engine. `prelude` is that first part as an
action of its own, on no state: `attempt_eq` says an attempt is its prelude and then the invocation.
Read `exists_conclusion` first: it lists how a prelude can end, and the other statements follow by
cases on its `Conclusion`.
-/

namespace LinkDriver

open LinkDriver.Action

variable {σ : Type} {host : HostView} {options : LinkOptions}

/-! ## The prelude of an attempt -/

/-- What an attempt does before it invokes its engine: it settles the output, the configuration and
the plan, and reports the last two. -/
def prelude (host : HostView) (options : LinkOptions) :
    Action Unit Failure (String × Configuration × List Item) := do
  let objects := options.objects.getD []
  if objects = [] then
    .fail (.driver .noObjects)
  let output ← OutputPath.determine host options.output (objects.map ObjectFile.path)
  .log .debug attemptSource ("Output file is " ++ output)
  let configuration ← configure options output
  .log .debug attemptSource ("Configuration: " ++ configuration.literal)
  match options.namespecs with
  | none => .fail (.fault .namespecsWithdrawn)
  | some namespecs =>
    let planned := plan objects namespecs
    .log .debug attemptSource ("Planned " ++ toString planned.length ++ " inputs")
    .emit (.report (.configuration configuration))
    .emit (.report (.inputs planned))
    return (output, configuration, planned)

/-- Determining the output touches no state. -/
theorem beside_determine (host : HostView) (asked : Option String) (inputs : List String) :
    (beside (OutputPath.determine host asked inputs) : Action σ Failure String) =
      OutputPath.determine host asked inputs := by
  unfold OutputPath.determine
  split
  · rfl
  · split
    · rfl
    · split <;> rfl
    · rfl

/-- Building the configuration touches no state. -/
theorem beside_configure (options : LinkOptions) (output : String) :
    (beside (configure options output) : Action σ Failure Configuration) =
      configure options output := by
  unfold configure
  split <;> rfl

/-- An attempt is its prelude, and then the invocation of what that has settled. -/
theorem attempt_eq (host : HostView) (engine : Engine σ) (options : LinkOptions) :
    attempt host engine options = (do
      let (output, configuration, items) ← beside (prelude host options)
      invoke engine configuration output (items.map .item)
      return output) := by
  unfold attempt prelude
  by_cases hobjects : options.objects.getD [] = []
  · simp only [hobjects, if_true]
    rfl
  · simp only [hobjects, if_false, beside_bind, beside_determine, beside_configure, beside_log,
      bind_assoc]
    cases options.namespecs with
    | none => rfl
    | some namespecs =>
        simp only [beside_bind, beside_log, beside_emit, beside_pure, bind_assoc, pure_bind]

/-- An attempt whose prelude fails does nothing else. -/
theorem run_attempt_of_error {events : List Event} {failure : Failure}
    (h : (prelude host options).run () = ⟨events, (), .error failure⟩) (engine : Engine σ)
    (state : σ) :
    (attempt host engine options).run state = ⟨events, state, .error failure⟩ := by
  have hbeside : (beside (prelude host options) : Action σ Failure _).run state =
      ⟨events, state, .error failure⟩ := by
    simp only [run_beside, h]
  rw [attempt_eq, run_bind_error (e := failure) (by rw [hbeside]), hbeside]

/-- An attempt whose prelude ends well goes on with the invocation, and returns the path of the
output if that ends well too. -/
theorem run_attempt_of_ok {events : List Event} {output : String} {configuration : Configuration}
    {items : List Item}
    (h : (prelude host options).run () = ⟨events, (), .ok (output, configuration, items)⟩)
    (engine : Engine σ) (state : σ) :
    (attempt host engine options).run state =
      let invoked := (invoke engine configuration output (items.map .item)).run state
      ⟨events ++ invoked.events, invoked.state, invoked.result.map fun _ => output⟩ := by
  have hbeside : (beside (prelude host options) : Action σ Failure _).run state =
      ⟨events, state, .ok (output, configuration, items)⟩ := by
    simp only [run_beside, h]
  rw [attempt_eq, run_bind_ok (a := (output, configuration, items)) (by rw [hbeside]), hbeside]
  simp only [run_bind_const]

/-! ## How a prelude ends -/

/-- `Prepared host options output configuration namespecs` says what an attempt has settled when it
invokes its engine. -/
structure Prepared (host : HostView) (options : LinkOptions) (output : String)
    (configuration : Configuration) (namespecs : List NameSpec) : Prop where
  objects_ne_nil : options.objects.getD [] ≠ []
  settled : OutputPath.settled? host options.output
    ((options.objects.getD []).map ObjectFile.path) = some output
  configured : options.configuration? output = some configuration
  listed : options.namespecs = some namespecs

/-- The path is that of the only object file, from which no output can be told: none is asked for,
the path is relative, and the working directory was removed. -/
structure LinkOptions.Unsettled (options : LinkOptions) (host : HostView) (path : String) :
    Prop where
  not_asked : given? options.output = none
  single : (options.objects.getD []).map ObjectFile.path = [path]
  relative : Path.isAbsolute path = false
  removed : host.workingDirectory = none

/-- An output that cannot be told is not settled. -/
theorem LinkOptions.Unsettled.settled?_eq {path : String} (h : options.Unsettled host path) :
    OutputPath.settled? host options.output ((options.objects.getD []).map ObjectFile.path) =
      none := by
  have habsolute : host.absolute? path = none :=
    OutputPath.absolute?_eq_none_iff.mpr ⟨h.removed, h.relative⟩
  rw [h.single, OutputPath.settled?, h.not_asked]
  exact congrArg (Option.map _) habsolute

/-- How the prelude of an attempt can end. -/
inductive Conclusion (host : HostView) (options : LinkOptions) :
    Outcome Unit Failure (String × Configuration × List Item) → Prop where
  | noObjects : options.objects.getD [] = [] →
      Conclusion host options ⟨[], (), .error (.driver .noObjects)⟩
  | unsettled {path} : options.Unsettled host path →
      Conclusion host options ⟨[], (), .error (.driver (.outputUnresolved path))⟩
  | withdrawn {output remarks} : options.objects.getD [] ≠ [] →
      OutputPath.settled? host options.output
        ((options.objects.getD []).map ObjectFile.path) = some output →
      options.configuration? output = none → (∀ event ∈ remarks, IsRemark event) →
      Conclusion host options ⟨remarks, (), .error (.driver .listWithdrawn)⟩
  | unlisted {output configuration remarks} : options.objects.getD [] ≠ [] →
      OutputPath.settled? host options.output
        ((options.objects.getD []).map ObjectFile.path) = some output →
      options.configuration? output = some configuration → options.namespecs = none →
      (∀ event ∈ remarks, IsRemark event) →
      Conclusion host options ⟨remarks, (), .error (.fault .namespecsWithdrawn)⟩
  | prepared {output configuration namespecs remarks} :
      Prepared host options output configuration namespecs →
      (∀ event ∈ remarks, IsRemark event) →
      Conclusion host options
        ⟨remarks ++ [.report (.configuration configuration),
            .report (.inputs (plan (options.objects.getD []) namespecs))], (),
          .ok (output, configuration, plan (options.objects.getD []) namespecs)⟩

/-- Every prelude comes to one of its conclusions. -/
theorem exists_conclusion (host : HostView) (options : LinkOptions) :
    ∃ conclusion, (prelude host options).run () = conclusion ∧
      Conclusion host options conclusion := by
  refine ⟨_, rfl, ?_⟩
  unfold prelude
  by_cases hobjects : options.objects.getD [] = []
  · simp only [hobjects, if_true]
    exact .noObjects hobjects
  have hinputs : (options.objects.getD []).map ObjectFile.path ≠ [] := by
    simpa using hobjects
  simp only [hobjects, if_false]
  rcases OutputPath.run_determine host options.output hinputs () with
    ⟨output, remarks, houtput, hremarks, hrun⟩ | ⟨path, hasked, hsingle, habsolute, hrun⟩
  · rw [run_bind_ok (a := output) (by rw [hrun]), hrun]
    unfold configure
    cases hconfiguration : options.configuration? output with
    | none =>
        exact @Conclusion.withdrawn host options output
          (remarks ++ [.log ⟨.debug, attemptSource, _⟩]) hobjects houtput hconfiguration
          (List.forall_mem_append.mpr ⟨hremarks, by simp [IsRemark]⟩)
    | some configuration =>
        cases hnamespecs : options.namespecs with
        | none =>
            exact @Conclusion.unlisted host options output configuration
              (remarks ++ [.log ⟨.debug, attemptSource, _⟩, .log ⟨.debug, "config", _⟩,
                .log ⟨.debug, attemptSource, _⟩]) hobjects houtput hconfiguration hnamespecs
              (List.forall_mem_append.mpr ⟨hremarks, by simp [IsRemark]⟩)
        | some namespecs =>
            have hprepared : Prepared host options output configuration namespecs :=
              ⟨hobjects, houtput, hconfiguration, hnamespecs⟩
            have hconclusion := @Conclusion.prepared host options output configuration namespecs
              (remarks ++
                [.log ⟨.debug, attemptSource, "Output file is " ++ output⟩,
                 .log ⟨.debug, "config", "Configured " ++ configuration.outputKind.word ++
                   " link for " ++ Literal.ofOption Value.display configuration.targetTriple⟩,
                 .log ⟨.debug, attemptSource, "Configuration: " ++ configuration.literal⟩,
                 .log ⟨.debug, attemptSource, "Planned " ++
                   toString (plan (options.objects.getD []) namespecs).length ++ " inputs"⟩])
              hprepared (List.forall_mem_append.mpr ⟨hremarks, by simp [IsRemark]⟩)
            rw [List.append_assoc] at hconclusion
            exact hconclusion
  · rw [run_bind_error (e := .driver (.outputUnresolved path)) (by rw [hrun]), hrun]
    obtain ⟨hremoved, hrelative⟩ := OutputPath.absolute?_eq_none_iff.mp habsolute
    exact .unsettled ⟨hasked, hsingle, hrelative, hremoved⟩

/-! ## How an attempt goes on -/

/-- An attempt that ends well invokes the engine on the plan of its inputs. -/
theorem runs_attempt {engine : Engine σ} {output : String} {state final : σ}
    (h : Runs (attempt host engine options) state output final) :
    ∃ namespecs configuration, options.namespecs = some namespecs ∧
      options.configuration? output = some configuration ∧
      Runs (invoke engine configuration output
        ((plan (options.objects.getD []) namespecs).map .item)) state () final := by
  obtain ⟨hresult, hstate⟩ := h
  obtain ⟨conclusion, hrun, hconclusion⟩ := exists_conclusion host options
  cases hconclusion with
  | noObjects | unsettled | withdrawn | unlisted =>
      rw [run_attempt_of_error hrun] at hresult
      exact absurd hresult (by simp)
  | @prepared path configuration namespecs remarks hprepared =>
      rw [run_attempt_of_ok hrun] at hresult hstate
      obtain ⟨⟨⟨⟩, hinvoked⟩, rfl⟩ := map_const_eq_ok_iff.mp hresult
      exact ⟨namespecs, configuration, hprepared.listed, hprepared.configured, hinvoked, hstate⟩

/-- What a prelude settles is settled in one way. -/
theorem Prepared.run_prelude {output : String} {configuration : Configuration}
    {namespecs : List NameSpec} (h : Prepared host options output configuration namespecs) :
    ∃ remarks, (∀ event ∈ remarks, IsRemark event) ∧ (prelude host options).run () =
      ⟨remarks ++ [.report (.configuration configuration),
          .report (.inputs (plan (options.objects.getD []) namespecs))], (),
        .ok (output, configuration, plan (options.objects.getD []) namespecs)⟩ := by
  obtain ⟨conclusion, hrun, hconclusion⟩ := exists_conclusion host options
  cases hconclusion with
  | noObjects hobjects => exact absurd hobjects h.objects_ne_nil
  | unsettled hunsettled => exact absurd (h.settled.symm.trans hunsettled.settled?_eq) (by simp)
  | withdrawn hobjects houtput hnone =>
      obtain rfl := Option.some.inj (h.settled.symm.trans houtput)
      exact absurd (h.configured.symm.trans hnone) (by simp)
  | unlisted hobjects houtput hconfiguration hnone =>
      exact absurd (h.listed.symm.trans hnone) (by simp)
  | prepared hprepared hremarks =>
      obtain rfl := Option.some.inj (h.settled.symm.trans hprepared.settled)
      obtain rfl := Option.some.inj (h.configured.symm.trans hprepared.configured)
      obtain rfl := Option.some.inj (h.listed.symm.trans hprepared.listed)
      exact ⟨_, hremarks, hrun⟩

/-- An attempt for which all is settled takes notes and invokes its engine. -/
theorem attempt_of_prepared {output : String} {configuration : Configuration}
    {namespecs : List NameSpec} (h : Prepared host options output configuration namespecs)
    (engine : Engine σ) (state : σ) :
    let invoked := (invoke engine configuration output
      ((plan (options.objects.getD []) namespecs).map .item)).run state
    NotedBefore ((attempt host engine options).run state)
      ⟨invoked.events, invoked.state, invoked.result.map fun _ => output⟩ := by
  obtain ⟨remarks, hremarks, hrun⟩ := h.run_prelude
  refine ⟨_, ?_, run_attempt_of_ok hrun engine state⟩
  refine List.forall_mem_append.mpr ⟨?_, by simp [IsNote]⟩
  exact fun event hmem => isNote_of_isRemark (hremarks event hmem)

/-- An attempt settles all that it needs to invoke its engine, or it fails before it does, in a way
that no engine changes: because the namespecs are withdrawn, or with a driver error that is not
about linking. -/
theorem prepared_or_failed (σ : Type) (host : HostView) (options : LinkOptions) :
    (∃ output configuration namespecs, Prepared host options output configuration namespecs) ∨
    ∃ failure,
      (options.namespecs = none ∧ failure = .fault .namespecsWithdrawn ∨
        ∃ error, failure = .driver error ∧ error.errorClass ≠ .linkEngine) ∧
      ∀ (engine : Engine σ) (state : σ),
        NotedBefore ((attempt host engine options).run state) ⟨[], state, .error failure⟩ := by
  have hfailed : ∀ {remarks failure}, (∀ event ∈ remarks, IsRemark event) →
      (prelude host options).run () = ⟨remarks, (), .error failure⟩ →
      ∀ (engine : Engine σ) (state : σ),
        NotedBefore ((attempt host engine options).run state) ⟨[], state, .error failure⟩ := by
    intro remarks failure hremarks hrun engine state
    refine ⟨remarks, fun event hmem => isNote_of_isRemark (hremarks event hmem), ?_⟩
    rw [run_attempt_of_error hrun, List.append_nil]
  obtain ⟨conclusion, hrun, hconclusion⟩ := exists_conclusion host options
  cases hconclusion with
  | noObjects =>
      exact Or.inr ⟨_, Or.inr ⟨_, rfl, by decide⟩, hfailed (by simp) hrun⟩
  | unsettled =>
      exact Or.inr ⟨_, Or.inr ⟨_, rfl, by simp [DriverError.errorClass]⟩, hfailed (by simp) hrun⟩
  | withdrawn _ _ _ hremarks =>
      exact Or.inr ⟨_, Or.inr ⟨_, rfl, by decide⟩, hfailed hremarks hrun⟩
  | unlisted _ _ _ hnone hremarks =>
      exact Or.inr ⟨_, Or.inl ⟨hnone, rfl⟩, hfailed hremarks hrun⟩
  | prepared hprepared => exact Or.inl ⟨_, _, _, hprepared⟩

/-- An attempt for which something cannot be settled ends with a driver error before it invokes its
engine. -/
theorem attempt_of_unprepared {host : HostView} {options : LinkOptions} {namespecs : List NameSpec}
    (hnamespecs : options.namespecs = some namespecs)
    (h : ¬ ∃ output configuration, Prepared host options output configuration namespecs)
    (engine : Engine σ) (state : σ) :
    ∃ error, NotedBefore ((attempt host engine options).run state)
      ⟨[], state, .error (.driver error)⟩ := by
  rcases prepared_or_failed σ host options with
    ⟨output, configuration, others, hprepared⟩ | ⟨failure, hfailure, hnoted⟩
  · obtain rfl := Option.some.inj (hnamespecs.symm.trans hprepared.listed)
    exact absurd ⟨output, configuration, hprepared⟩ h
  · rcases hfailure with ⟨hnone, -⟩ | ⟨error, rfl, -⟩
    · exact absurd (hnamespecs.symm.trans hnone) (by simp)
    · exact ⟨error, hnoted engine state⟩

/-- An attempt that ends well returns the path of the output. -/
theorem settled_of_attempt {host : HostView} {engine : Engine σ} {options : LinkOptions}
    {namespecs : List NameSpec} {output : String} (hnamespecs : options.namespecs = some namespecs)
    (h : ((attempt host engine options).run state).result = .ok output) :
    OutputPath.settled? host options.output
      ((options.objects.getD []).map ObjectFile.path) = some output := by
  by_cases hprepared : ∃ path configuration, Prepared host options path configuration namespecs
  · obtain ⟨path, configuration, hprepared⟩ := hprepared
    rw [(attempt_of_prepared hprepared engine state).result_eq] at h
    obtain ⟨-, rfl⟩ := map_const_eq_ok_iff.mp h
    exact hprepared.settled
  · obtain ⟨error, hnoted⟩ := attempt_of_unprepared hnamespecs hprepared engine state
    exact absurd (hnoted.result_eq.symm.trans h) (by simp)

end LinkDriver
