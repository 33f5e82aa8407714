import LinkDriver.Proofs.Attempt
import LinkDriver.Proofs.Configuration
import LinkDriver.Proofs.Protocol

/-!
# One output for a link

The output of a link is decided before the engine is called, and once: the engine is to write it,
the attempt returns it, and it stands in for a missing soname. Read `output_decided_once` first.
`OutputDecided` lists what keeps an attempt from calling its engine, in the order in which it is
found, and `UsesOutput` what an attempt does with its output otherwise.

The calls of an attempt are those that an engine sees which keeps them, as for an invocation.
-/

namespace LinkDriver

open LinkDriver.Action

variable {σ : Type} {host : HostView} {options : LinkOptions} {engine : Engine σ} {state : σ}
  {made : List (MadeCall σ)}

/-! ## The calls of an attempt -/

/-- An attempt whose prelude fails makes no call. -/
theorem attempt_uncalled {events : List Event} {failure : Failure}
    (h : (prelude host options).run () = ⟨events, (), .error failure⟩) (engine : Engine σ)
    (state : σ) :
    (attempt host engine.traced options).run (state, []) =
      let outcome := (attempt host engine options).run state
      ⟨outcome.events, (outcome.state, []), outcome.result⟩ := by
  rw [run_attempt_of_error h, run_attempt_of_error h]

/-- An attempt whose prelude ends well makes the calls of its invocation, which obeys the
protocol. -/
theorem attempt_called {events : List Event} {output : String} {configuration : Configuration}
    {items : List Item}
    (h : (prelude host options).run () = ⟨events, (), .ok (output, configuration, items)⟩)
    (engine : Engine σ) (state : σ) :
    ∃ made,
      (attempt host engine.traced options).run (state, []) =
        (let outcome := (attempt host engine options).run state
        ⟨outcome.events, (outcome.state, made), outcome.result⟩) ∧
      ObeysProtocol engine configuration output items state made
        ((invoke engine configuration output (items.map .item)).run state) := by
  obtain ⟨made, hexchange⟩ := exists_exchange_invoke engine configuration output items state
  refine ⟨made, ?_, hexchange.obeysProtocol⟩
  have htraced : (invoke engine.traced configuration output (items.map .item)).run (state, []) =
      _ := hexchange.run_traced []
  rw [run_attempt_of_ok h, run_attempt_of_ok h, htraced]
  rfl

/-- The first calls of an invocation: it configures its engine, and if that succeeds it sets the
output on the state that the first call left. -/
theorem ObeysProtocol.opening {configuration : Configuration} {output : String} {items : List Item}
    {outcome : Outcome σ Failure Unit}
    (h : ObeysProtocol engine configuration output items state made outcome) :
    ∃ first later, made = first :: later ∧ first.call = .configure configuration ∧
      first.before = state ∧
      (first.passed = false ∧ later = [] ∨
        first.passed = true ∧ ∃ second rest, later = second :: rest ∧
          second.call = .setOutput output ∧ second.before = first.outcome.state) := by
  obtain ⟨hne, hbegins⟩ := h.begins
  obtain ⟨first, later, rfl⟩ := List.exists_cons_of_ne_nil hne
  obtain ⟨hbefore, -, hlater⟩ := h.chained
  obtain ⟨hfirst, hbegins⟩ := List.cons_prefix_cons.mp hbegins
  refine ⟨first, later, rfl, hfirst, hbefore, ?_⟩
  cases later with
  | nil =>
      -- A single call that succeeded would be the whole protocol.
      refine Or.inl ⟨Bool.eq_false_iff.mpr fun hpassed => ?_, rfl⟩
      have hwhole := h.whole_iff.mpr (by simpa using hpassed)
      simp [hpassed, protocol] at hwhole
  | cons second rest =>
      obtain ⟨hsecond, -⟩ := List.cons_prefix_cons.mp hbegins
      exact Or.inr ⟨h.stops first (by simp), second, rest, rfl, hsecond, hlater.1⟩

/-! ## The decision -/

/-- The attempt ends with an error of the class before it calls its engine, and leaves its state as
it was. -/
def RefusedUncalled (state : σ) (made : List (MadeCall σ)) (outcome : Outcome σ Failure String)
    (errorClass : ErrorClass) (error : DriverError) : Prop :=
  error.errorClass = errorClass ∧ outcome.result = .error (.driver error) ∧ made = [] ∧
    outcome.state = state

/-- `UsesOutput options output state made outcome` says an attempt that made these calls uses this
output wherever it uses any. -/
structure UsesOutput (options : LinkOptions) (output : String) (state : σ)
    (made : List (MadeCall σ)) (outcome : Outcome σ Failure String) : Prop where
  /-- The engine is configured first. Its configuration has the soname that was asked for, or else
  the output. If that succeeds, the output is set, on the state that was left. -/
  configures : ∃ configuration first later,
    options.configuration? output = some configuration ∧
    configuration.soname = (given? options.soname).getD output ∧
    made = first :: later ∧ first.call = .configure configuration ∧ first.before = state ∧
    (first.passed = false ∧ later = [] ∨
      first.passed = true ∧ ∃ second rest, later = second :: rest ∧
        second.call = .setOutput output ∧ second.before = first.outcome.state)
  /-- No other output is set. -/
  sets_no_other : ∀ step ∈ made, ∀ path, step.call = .setOutput path → path = output
  /-- No other path is returned. -/
  returns_no_other : ∀ path, outcome.result = .ok path → path = output

/-- `OutputDecided host options state made outcome` says an attempt that made these calls and ended
with this outcome has decided on its output before it called its engine. -/
structure OutputDecided (host : HostView) (options : LinkOptions) (state : σ)
    (made : List (MadeCall σ)) (outcome : Outcome σ Failure String) : Prop where
  /-- Without object files nothing else counts. -/
  no_objects : options.objects.getD [] = [] → RefusedUncalled state made outcome .usage .noObjects
  /-- Then comes an output that cannot be told from a single object file; the error names it. -/
  unsettled : ∀ path, options.Unsettled host path →
    RefusedUncalled state made outcome .outputResolution (.outputUnresolved path) ∧
      path.toList <:+: (DriverError.outputUnresolved path).message.toList
  /-- Then come lists that are withdrawn. -/
  withdrawn : options.objects.getD [] ≠ [] → (∀ path, ¬ options.Unsettled host path) →
    (options.wraps = none ∨ options.portables = none ∨ options.searchDirs = none) →
    RefusedUncalled state made outcome .configuration .listWithdrawn
  /-- Without namespecs nothing is called either, but that is no error of the driver. -/
  unlisted : options.objects.getD [] ≠ [] → (∀ path, ¬ options.Unsettled host path) →
    options.wraps ≠ none → options.portables ≠ none → options.searchDirs ≠ none →
    options.namespecs = none →
    outcome.result = .error (.fault .namespecsWithdrawn) ∧ made = [] ∧ outcome.state = state
  /-- In every other case there is one output. -/
  decided : options.objects.getD [] ≠ [] → (∀ path, ¬ options.Unsettled host path) →
    options.wraps ≠ none → options.portables ≠ none → options.searchDirs ≠ none →
    options.namespecs ≠ none →
    ∃ output, OutputPath.settled? host options.output
        ((options.objects.getD []).map ObjectFile.path) = some output ∧
      UsesOutput options output state made outcome

/-- The error for an output that cannot be told names the path of the object file. -/
theorem path_infix_outputUnresolved (path : String) :
    path.toList <:+: (DriverError.outputUnresolved path).message.toList := by
  unfold DriverError.message DriverError.detailed
  simp only [String.toList_append, List.append_assoc]
  exact (List.prefix_append _ _).isInfix.trans (List.suffix_append _ _).isInfix

/-- Some object file has the path of an output that cannot be told. -/
theorem LinkOptions.Unsettled.objects_ne_nil {path : String} (h : options.Unsettled host path) :
    options.objects.getD [] ≠ [] := by
  intro hobjects
  have hsingle := h.single
  rw [hobjects] at hsingle
  exact absurd hsingle (by simp)

/-- At most one path is that of an output that cannot be told. -/
theorem LinkOptions.Unsettled.unique {path other : String} (h : options.Unsettled host path)
    (hother : options.Unsettled host other) : path = other := by
  simpa using h.single.symm.trans hother.single

/-- An output that is settled can be told. -/
theorem not_unsettled_of_settled {output path : String}
    (h : OutputPath.settled? host options.output
      ((options.objects.getD []).map ObjectFile.path) = some output) :
    ¬ options.Unsettled host path := by
  intro hunsettled
  exact absurd (h.symm.trans hunsettled.settled?_eq) (by simp)

/-- An attempt whose invocation obeys the protocol uses the output that was settled. -/
theorem usesOutput_of_prepared {output : String} {configuration : Configuration}
    {namespecs : List NameSpec} (hprepared : Prepared host options output configuration namespecs)
    {events : List Event} {invoked : Outcome σ Failure Unit}
    (h : ObeysProtocol engine configuration output (plan (options.objects.getD []) namespecs) state
      made invoked) :
    UsesOutput options output state made
      ⟨events, invoked.state, invoked.result.map fun _ => output⟩ where
  configures := by
    obtain ⟨first, later, hmade⟩ := h.opening
    exact ⟨configuration, first, later, hprepared.configured,
      (LinkOptions.configured_of_configuration? hprepared.configured).soname, hmade⟩
  sets_no_other step hmem path hcall := by
    have hprotocol := h.begins.2.subset (List.mem_map_of_mem hmem)
    rw [hcall] at hprotocol
    exact eq_of_setOutput_mem hprotocol
  returns_no_other path hpath := (map_const_eq_ok_iff.mp hpath).2.symm

namespace OutputDecided

variable {outcome : Outcome σ Failure String}

/-- What is refused for want of object files is decided. -/
theorem of_noObjects (hobjects : options.objects.getD [] = [])
    (h : RefusedUncalled state made outcome .usage .noObjects) :
    OutputDecided host options state made outcome where
  no_objects _ := h
  unsettled _ hpath := absurd hobjects hpath.objects_ne_nil
  withdrawn hne := absurd hobjects hne
  unlisted hne := absurd hobjects hne
  decided hne := absurd hobjects hne

/-- What is refused because no output can be told is decided. -/
theorem of_unsettled {path : String} (hpath : options.Unsettled host path)
    (h : RefusedUncalled state made outcome .outputResolution (.outputUnresolved path)) :
    OutputDecided host options state made outcome where
  no_objects hobjects := absurd hobjects hpath.objects_ne_nil
  unsettled other hother := by
    obtain rfl := hpath.unique hother
    exact ⟨h, path_infix_outputUnresolved path⟩
  withdrawn _ hnone := absurd hpath (hnone path)
  unlisted _ hnone := absurd hpath (hnone path)
  decided _ hnone := absurd hpath (hnone path)

variable {output : String} (hobjects : options.objects.getD [] ≠ [])
  (houtput : OutputPath.settled? host options.output
    ((options.objects.getD []).map ObjectFile.path) = some output)

include hobjects houtput

/-- What is refused for a list that is withdrawn is decided. -/
theorem of_withdrawn (hnone : options.configuration? output = none)
    (h : RefusedUncalled state made outcome .configuration .listWithdrawn) :
    OutputDecided host options state made outcome := by
  have hlists := LinkOptions.configuration?_eq_none_iff.mp hnone
  constructor
  case no_objects => exact fun hempty => absurd hempty hobjects
  case unsettled => exact fun path hpath => absurd hpath (not_unsettled_of_settled houtput)
  case withdrawn => exact fun _ _ _ => h
  all_goals
    intro _ _ hwraps hportables hsearchDirs
    rcases hlists with hlist | hlist | hlist
    · exact absurd hlist hwraps
    · exact absurd hlist hportables
    · exact absurd hlist hsearchDirs

/-- What ends because the namespecs are withdrawn is decided. -/
theorem of_unlisted (hconfiguration : options.configuration? output ≠ none)
    (hnone : options.namespecs = none)
    (h : outcome.result = .error (.fault .namespecsWithdrawn) ∧ made = [] ∧
      outcome.state = state) :
    OutputDecided host options state made outcome where
  no_objects hempty := absurd hempty hobjects
  unsettled _ hpath := absurd hpath (not_unsettled_of_settled houtput)
  withdrawn _ _ hlists :=
    absurd (LinkOptions.configuration?_eq_none_iff.mpr hlists) hconfiguration
  unlisted _ _ _ _ _ _ := h
  decided _ _ _ _ _ hlisted := absurd hnone hlisted

/-- What uses the settled output is decided. -/
theorem of_usesOutput (hconfiguration : options.configuration? output ≠ none)
    (hlisted : options.namespecs ≠ none) (h : UsesOutput options output state made outcome) :
    OutputDecided host options state made outcome where
  no_objects hempty := absurd hempty hobjects
  unsettled _ hpath := absurd hpath (not_unsettled_of_settled houtput)
  withdrawn _ _ hlists :=
    absurd (LinkOptions.configuration?_eq_none_iff.mpr hlists) hconfiguration
  unlisted _ _ _ _ _ hnone := absurd hnone hlisted
  decided _ _ _ _ _ _ := ⟨output, houtput, h⟩

end OutputDecided

/-- For every engine, every host and all options, an attempt decides on its output before it calls
its engine. The calls are those that an engine sees which keeps them, and keeping them changes
neither the events, nor the state, nor the result. -/
theorem output_decided_once (host : HostView) (engine : Engine σ) (options : LinkOptions)
    (state : σ) :
    let outcome := (attempt host engine options).run state
    ∃ made,
      (attempt host engine.traced options).run (state, []) =
        ⟨outcome.events, (outcome.state, made), outcome.result⟩ ∧
      OutputDecided host options state made outcome := by
  intro outcome
  have hrefused : ∀ {events failure}, (prelude host options).run () = ⟨events, (), .error failure⟩ →
      outcome = ⟨events, state, .error failure⟩ :=
    fun hrun => run_attempt_of_error hrun engine state
  obtain ⟨conclusion, hrun, hconclusion⟩ := exists_conclusion host options
  cases hconclusion with
  | noObjects hobjects =>
      refine ⟨[], attempt_uncalled hrun engine state, .of_noObjects hobjects ?_⟩
      rw [hrefused hrun]
      exact ⟨rfl, rfl, rfl, rfl⟩
  | unsettled hpath =>
      refine ⟨[], attempt_uncalled hrun engine state, .of_unsettled hpath ?_⟩
      rw [hrefused hrun]
      exact ⟨rfl, rfl, rfl, rfl⟩
  | withdrawn hobjects houtput hnone =>
      refine ⟨[], attempt_uncalled hrun engine state, .of_withdrawn hobjects houtput hnone ?_⟩
      rw [hrefused hrun]
      exact ⟨rfl, rfl, rfl, rfl⟩
  | unlisted hobjects houtput hconfiguration hnone =>
      refine ⟨[], attempt_uncalled hrun engine state,
        .of_unlisted hobjects houtput (by simp [hconfiguration]) hnone ?_⟩
      rw [hrefused hrun]
      exact ⟨rfl, rfl, rfl⟩
  | @prepared output configuration namespecs remarks hprepared =>
      obtain ⟨made, htraced, hobeys⟩ := attempt_called hrun engine state
      have houtcome : outcome = _ := run_attempt_of_ok hrun engine state
      refine ⟨made, htraced, .of_usesOutput hprepared.objects_ne_nil hprepared.settled
        (by simp [hprepared.configured]) (by simp [hprepared.listed]) ?_⟩
      rw [houtcome]
      exact usesOutput_of_prepared hprepared hobeys

end LinkDriver
