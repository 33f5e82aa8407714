import LinkDriver.Proofs.Engine.MadeCalls
import LinkDriver.Proofs.Engine.Readiness

/-!
# The record of the calls of an engine

An engine may be called in any order, and the caller may go on after a call that failed.
`makeCalls` makes such calls one after the other. Read `engine_keeps_record` first: the state is
then the record of the calls that succeeded, as `KeepsRecord` lists it. What one call records is
read off its answer (the lemmas `Answer.output_eq`, `Answer.added` and so on), and what many calls
record follows by induction on them (`Answered`).
-/

namespace LinkDriver.Gnu

open LinkDriver.Action

/-- Makes calls one after the other, each with what becomes of the command if the call hands one to
the system. -/
def makeCalls (settings : Settings) (host : HostView) (state : State)
    (requests : List (Call × LinkerRun)) : List (MadeCall State) :=
  LinkDriver.makeCalls state
    (requests.map fun request => (engine settings host request.2, request.1))

/-- The file is the one that a call adds under a configuration: that of the object file, or the one
at which the library is found. -/
def Adds (host : HostView) (staticOnly : Bool) (configuration : Option Configuration) :
    Call → String → Prop
  | .addObject path, file => file = path
  | .addNamespec name, file =>
    State.findLibrary host staticOnly ⟨configuration, none, []⟩ name = .ok file
  | _, _ => False

/-- `KeepsRecord settings host runs made final` says that a new engine of which these calls were
made, with these runs of commands, has kept the record of them, and that this is its final state. -/
structure KeepsRecord (settings : Settings) (host : HostView) (runs : List LinkerRun)
    (made : List (MadeCall State)) (final : State) : Prop where
  /-- A call that is refused changes nothing, and neither does any other one that fails without a
  blank in it. -/
  failed_unchanged : ∀ step ∈ made, ∀ failure, step.outcome.result = .error failure →
    (∃ detail, failure = .refused detail) ∨ IsTextual step.call → step.outcome.state = step.before
  /-- A link changes nothing. -/
  link_unchanged : ∀ step ∈ made, step.call = .link → step.outcome.state = step.before
  /-- The configuration is the last one that was handed over. -/
  configuration_eq : final.configuration = lastConfigured made
  /-- The output is the last one that was set. -/
  output_eq : final.output = lastOutput made
  /-- The output can be written. -/
  output_ready : ∀ path, final.output = some path → OutputReady host path
  /-- There is one input for each call that succeeded in adding one, in the order of the calls. -/
  inputs_added : List.Forall₂
    (fun step => Adds host settings.staticOnly step.before.configuration step.call)
    (additions made) final.inputs
  /-- The configuration under which a call is made is the last one that was handed over before. -/
  in_force : ∀ earlier step later, made = earlier ++ step :: later →
    step.before.configuration = lastConfigured earlier
  /-- Every input is a regular file. -/
  inputs_files : ∀ file ∈ final.inputs, host.isFile file = true
  /-- A link before a configuration was handed over and an output was set is refused, and starts
  nothing. -/
  link_refused : ∀ earlier step later, made = earlier ++ step :: later → step.call = .link →
    (lastConfigured earlier = none ∨ lastOutput earlier = none) →
    (∃ detail, step.outcome.result = .error (.refused detail)) ∧
      ∀ command, .start command ∉ step.outcome.events
  /-- Where no text is blank, and the working directory is there, a call fails only by a refusal,
  unless it is a link that ends with the fault of its command. -/
  only_refusals : host.workingDirectory ≠ none → (∀ step ∈ made, IsTextual step.call) →
    ∀ step ∈ made, ∀ fault, step.outcome.result = .error (.fault fault) →
      step.call = .link ∧ settings.dryRun = false ∧ ∃ ran ∈ runs, ran.fault? = some fault

variable {settings : Settings} {host : HostView} {ran : LinkerRun} {runs : List LinkerRun}
  {state : State} {call : Call} {made : List (MadeCall State)}

/-! ## One call -/

/-- A library that is found is a regular file. -/
theorem isFile_of_findLibrary {staticOnly : Bool} {name : Value} {file : String}
    (h : state.findLibrary host staticOnly name = .ok file) : host.isFile file = true := by
  unfold State.findLibrary at h
  split at h
  · exact absurd h (by simp)
  · split at h
    · exact absurd h (by simp)
    · split at h
      · rename_i hlookUp
        obtain rfl := Except.ok.inj h
        exact List.find?_some hlookUp
      · exact absurd h (by simp)

section Answers

variable {later : Outcome State CallFailure Unit}
  (h : Answer settings host ran state call later)

include h

theorem Answer.configuration_eq :
    later.state.configuration = call.configuration?.or state.configuration := by
  cases h with
  | handed _ _ hhanded => exact congrArg State.configuration hhanded.state_eq
  | configured | portableBlank | outputTaken | outputFailed | objectTaken | objectFailed
  | libraryTaken | libraryFailed | notReady | commandFailed | printed => rfl

/-- Only a call that succeeds sets the output. -/
theorem Answer.output_eq :
    later.state.output = (if later.result.isOk then call.output? else none).or state.output := by
  cases h with
  | handed _ _ hhanded =>
      rw [hhanded.state_eq]
      split <;> rfl
  | configured | portableBlank | outputTaken | outputFailed | objectTaken | objectFailed
  | libraryTaken | libraryFailed | notReady | commandFailed | printed => rfl

/-- An output that is set can be written. -/
theorem Answer.output_ready {path : String} (hcall : call = .setOutput path)
    (hpassed : later.result.isOk = true) : OutputReady host path := by
  subst hcall
  cases h with
  | outputTaken hcheck => exact checkOutput_eq_ok_iff.mp hcheck
  | outputFailed => exact absurd hpassed (by simp [Except.isOk, Except.toBool])

/-- A call that succeeds in adding an input adds one regular file. -/
theorem Answer.added (hadds : (later.result.isOk && call.adds) = true) : ∃ file,
    Adds host settings.staticOnly state.configuration call file ∧ host.isFile file = true ∧
      later.state.inputs = state.inputs ++ [file] := by
  cases h with
  | @objectTaken path hcheck =>
      exact ⟨path, rfl, (checkObject_eq_ok_iff.mp hcheck).1, rfl⟩
  | @libraryTaken name file hfound =>
      refine ⟨file, ?_, isFile_of_findLibrary hfound, rfl⟩
      have hsame : State.fileOf host settings.staticOnly ⟨state.configuration, none, []⟩ =
          state.fileOf host settings.staticOnly := fileOf_congr rfl
      exact (congrFun hsame (.namespec ⟨0, name⟩)).trans hfound
  | configured | portableBlank | outputTaken | outputFailed | objectFailed | libraryFailed
  | notReady | commandFailed | printed | handed =>
      exact absurd hadds (by simp [Call.adds, Except.isOk, Except.toBool])

/-- No other call adds any. -/
theorem Answer.not_added (hadds : (later.result.isOk && call.adds) = false) :
    later.state.inputs = state.inputs := by
  cases h with
  | objectTaken | libraryTaken =>
      exact absurd hadds (by simp [Call.adds, Except.isOk, Except.toBool])
  | configured | portableBlank | outputTaken | outputFailed | objectFailed | libraryFailed
  | notReady | commandFailed | printed => rfl
  | handed _ _ hhanded => exact congrArg State.inputs hhanded.state_eq

/-- A failure changes nothing, but for that of a configuration with a blank portable symbol, which
is no refusal. -/
theorem Answer.failed_unchanged {failure : CallFailure} (hfailed : later.result = .error failure)
    (hkind : (∃ detail, failure = .refused detail) ∨ IsTextual call) : later.state = state := by
  cases h with
  | configured | outputTaken | objectTaken | libraryTaken | printed =>
      exact absurd hfailed (by simp)
  | portableBlank hblank =>
      obtain rfl := Except.error.inj hfailed
      rcases hkind with ⟨detail, hrefused⟩ | htextual
      · exact absurd hrefused (by simp)
      · exact absurd hblank htextual.1
  | outputFailed | objectFailed | libraryFailed | notReady | commandFailed => rfl
  | handed _ _ hhanded => exact hhanded.state_eq

/-- A link changes nothing. -/
theorem Answer.link_unchanged (hcall : call = .link) : later.state = state := by
  subst hcall
  cases h with
  | notReady | commandFailed | printed => rfl
  | handed _ _ hhanded => exact hhanded.state_eq

/-- A link without a configuration or an output is refused, and does nothing. -/
theorem Answer.link_refused (hcall : call = .link)
    (hmissing : state.configuration = none ∨ state.output = none) :
    later = ⟨[], state, .error (.refused "Engine is not configured")⟩ := by
  subst hcall
  have hnone : state.command? settings = none := by
    unfold State.command?
    rcases hmissing with hmissing | hmissing <;> rw [hmissing]
    cases state.configuration <;> rfl
  cases h with
  | notReady => rfl
  | commandFailed hcommand | printed hcommand | handed hcommand =>
      exact absurd (hnone.symm.trans hcommand) (by simp)

end Answers

/-! ## Many calls -/

/-- The calls are linked, and each was answered after mere notes, with one of the runs. -/
def Answered (settings : Settings) (host : HostView) (runs : List LinkerRun) :
    State → List (MadeCall State) → Prop :=
  Linked fun state call outcome => ∃ ran ∈ runs, ∃ later,
    Answer settings host ran state call later ∧ NotedBefore outcome later

/-- Calls that are made are answered. -/
theorem answered_makeCalls (settings : Settings) (host : HostView) (state : State)
    (requests : List (Call × LinkerRun)) :
    Answered settings host (requests.map Prod.snd) state
      (makeCalls settings host state requests) := by
  refine linked_makeCalls ?_ state
  intro _ hmem state
  obtain ⟨⟨call, ran⟩, hrequest, rfl⟩ := List.mem_map.mp hmem
  exact ⟨ran, List.mem_map_of_mem hrequest, exists_answer settings host ran call state⟩

namespace Answered

theorem configuration_eq (h : Answered settings host runs state made) :
    (stateAfter state made).configuration = (lastConfigured made).or state.configuration := by
  induction made generalizing state with
  | nil => rfl
  | cons step rest ih =>
      obtain ⟨rfl, ⟨ran, -, answer, hanswer, hnoted⟩, hrest⟩ := h
      rw [stateAfter, ih hrest, hnoted.state_eq, hanswer.configuration_eq, lastConfigured_cons,
        Option.or_assoc]

theorem output_eq (h : Answered settings host runs state made) :
    (stateAfter state made).output = (lastOutput made).or state.output := by
  induction made generalizing state with
  | nil => rfl
  | cons step rest ih =>
      obtain ⟨rfl, ⟨ran, -, answer, hanswer, hnoted⟩, hrest⟩ := h
      rw [stateAfter, ih hrest, hnoted.state_eq, hanswer.output_eq, lastOutput_cons,
        Option.or_assoc, MadeCall.passed, hnoted.result_eq]

/-- Each call is made with the configuration and the output that were settled last before it. -/
theorem before_eq {earlier later : List (MadeCall State)} {step : MadeCall State}
    (h : Answered settings host runs state (earlier ++ step :: later)) :
    step.before.configuration = (lastConfigured earlier).or state.configuration ∧
      step.before.output = (lastOutput earlier).or state.output := by
  obtain ⟨hearlier, hbefore, -⟩ := h.split
  rw [hbefore]
  exact ⟨configuration_eq hearlier, output_eq hearlier⟩

/-- On a new engine, a link is refused and starts nothing until a configuration was handed over and
an output was set. -/
theorem link_refused {earlier later : List (MadeCall State)} {step : MadeCall State}
    (h : Answered settings host runs .new (earlier ++ step :: later)) (hcall : step.call = .link)
    (hmissing : lastConfigured earlier = none ∨ lastOutput earlier = none) :
    (∃ detail, step.outcome.result = .error (.refused detail)) ∧
      ∀ command, .start command ∉ step.outcome.events := by
  obtain ⟨hconfiguration, houtput⟩ := h.before_eq
  have hlacks : step.before.configuration = none ∨ step.before.output = none := by
    rw [hconfiguration, houtput]
    exact hmissing.imp (fun hnone => by rw [hnone]; rfl) fun hnone => by rw [hnone]; rfl
  obtain ⟨-, -, ran, -, answer, hanswer, hnoted⟩ := h.split
  obtain rfl := hanswer.link_refused hcall hlacks
  refine ⟨⟨_, hnoted.result_eq⟩, ?_⟩
  intro command hstart
  exact absurd (hnoted.mem_events hstart (by simp [IsNote])) (by simp)

/-- An output that can be written at first can be written in the end. -/
theorem output_ready (h : Answered settings host runs state made)
    (hready : ∀ path, state.output = some path → OutputReady host path) {path : String}
    (hpath : (stateAfter state made).output = some path) : OutputReady host path := by
  induction made generalizing state with
  | nil => exact hready path hpath
  | cons step rest ih =>
      obtain ⟨rfl, ⟨ran, -, answer, hanswer, hnoted⟩, hrest⟩ := h
      refine ih hrest ?_ hpath
      intro other hother
      rw [hnoted.state_eq, hanswer.output_eq] at hother
      rcases Option.or_eq_some_iff.mp hother with hset | ⟨-, hkept⟩
      · have hpassed : answer.result.isOk = true := by
          by_contra hfailed
          rw [if_neg hfailed] at hset
          exact absurd hset (by simp)
        rw [if_pos hpassed] at hset
        refine hanswer.output_ready ?_ hpassed
        cases hcall : step.call <;> simp_all [Call.output?]
      · exact hready other hkept

/-- The inputs of the final state are those at first and then, for each call that succeeded in
adding one, a regular file that it adds. -/
theorem exists_added (h : Answered settings host runs state made) : ∃ files,
    (stateAfter state made).inputs = state.inputs ++ files ∧
      List.Forall₂ (fun step => Adds host settings.staticOnly step.before.configuration step.call)
        (additions made) files ∧
      ∀ file ∈ files, host.isFile file = true := by
  induction made generalizing state with
  | nil => exact ⟨[], (List.append_nil _).symm, .nil, by simp⟩
  | cons step rest ih =>
      obtain ⟨rfl, ⟨ran, -, answer, hanswer, hnoted⟩, hrest⟩ := h
      obtain ⟨files, hinputs, hadded, hfiles⟩ := ih hrest
      have hpassed : step.passed = answer.result.isOk := by
        rw [MadeCall.passed, hnoted.result_eq]
      cases hadds : answer.result.isOk && step.call.adds with
      | false =>
          refine ⟨files, ?_, ?_, hfiles⟩
          · rw [stateAfter, hinputs, hnoted.state_eq, hanswer.not_added hadds]
          · rw [additions, List.filter_cons_of_neg (by simp [hpassed, hadds])]
            exact hadded
      | true =>
          obtain ⟨file, hfile, hregular, hstate⟩ := hanswer.added hadds
          refine ⟨file :: files, ?_, ?_, List.forall_mem_cons.mpr ⟨hregular, hfiles⟩⟩
          · rw [stateAfter, hinputs, hnoted.state_eq, hstate, List.append_assoc,
              List.singleton_append]
          · rw [additions, List.filter_cons_of_pos (by simp [hpassed, hadds])]
            exact .cons hfile hadded

/-- Textual calls keep a state textual. -/
theorem isTextual (h : Answered settings host runs state made) (hstate : state.IsTextual)
    (htextual : ∀ step ∈ made, IsTextual step.call) : (stateAfter state made).IsTextual := by
  induction made generalizing state with
  | nil => exact hstate
  | cons step rest ih =>
      obtain ⟨rfl, ⟨ran, -, answer, hanswer, hnoted⟩, hrest⟩ := h
      obtain ⟨hstep, htextual⟩ := List.forall_mem_cons.mp htextual
      exact ih hrest (hnoted.state_eq ▸ hanswer.state_isTextual hstep hstate) htextual

/-- Among textual calls on a host with a working directory, only a link has a fault, that of its
command. -/
theorem fault_of_textual (h : Answered settings host runs state made) (hstate : state.IsTextual)
    (htextual : ∀ step ∈ made, IsTextual step.call) (hdirectory : host.workingDirectory ≠ none)
    {step : MadeCall State} (hmem : step ∈ made) {fault : Fault}
    (hfault : step.outcome.result = .error (.fault fault)) :
    step.call = .link ∧ settings.dryRun = false ∧ ∃ ran ∈ runs, ran.fault? = some fault := by
  obtain ⟨earlier, later, rfl⟩ := List.append_of_mem hmem
  obtain ⟨hearlier, hbefore, ran, hran, answer, hanswer, hnoted⟩ := h.split
  have hstep : step.before.IsTextual := by
    rw [hbefore]
    exact isTextual hearlier hstate fun other hother => htextual other (by simp [hother])
  rw [hnoted.result_eq] at hfault
  rcases hanswer.fault_of_textual (htextual step hmem) hstep hfault with
    ⟨path, -, -, hgone⟩ | ⟨hlink, hdry, hcommand⟩
  · exact absurd (OutputPath.absolute?_eq_none_iff.mp hgone).1 hdirectory
  · exact ⟨hlink, hdry, ran, hran, hcommand⟩

end Answered

/-- Whatever calls are made of a new engine, and however they end, its state is the record of those
that succeeded. -/
theorem engine_keeps_record (settings : Settings) (host : HostView)
    (requests : List (Call × LinkerRun)) :
    let made := makeCalls settings host .new requests
    made.map MadeCall.call = requests.map Prod.fst ∧
      KeepsRecord settings host (requests.map Prod.snd) made (stateAfter .new made) := by
  intro made
  have hanswered : Answered settings host (requests.map Prod.snd) .new made :=
    answered_makeCalls settings host .new requests
  obtain ⟨files, hinputs, hadded, hfiles⟩ := hanswered.exists_added
  rw [show State.new.inputs = [] from rfl, List.nil_append] at hinputs
  have hcalls : made.map MadeCall.call = requests.map Prod.fst := by
    refine (map_call_makeCalls State.new _).trans ?_
    rw [List.map_map]
    rfl
  refine ⟨hcalls, ?_⟩
  exact {
    failed_unchanged := by
      intro step hmem failure hfailed hkind
      obtain ⟨ran, -, answer, hanswer, hnoted⟩ := hanswered.answered_of_mem hmem
      rw [hnoted.result_eq] at hfailed
      rw [hnoted.state_eq, hanswer.failed_unchanged hfailed hkind]
    link_unchanged := by
      intro step hmem hcall
      obtain ⟨ran, -, answer, hanswer, hnoted⟩ := hanswered.answered_of_mem hmem
      rw [hnoted.state_eq, hanswer.link_unchanged hcall]
    configuration_eq := by rw [hanswered.configuration_eq]; exact Option.or_none
    output_eq := by rw [hanswered.output_eq]; exact Option.or_none
    output_ready := fun path hpath =>
      hanswered.output_ready (fun other hother => absurd hother (by simp [State.new])) hpath
    inputs_added := hinputs ▸ hadded
    in_force := by
      intro earlier step later hmade
      rw [hmade] at hanswered
      exact hanswered.before_eq.1.trans Option.or_none
    inputs_files := hinputs ▸ hfiles
    link_refused := fun earlier step later hmade => (hmade ▸ hanswered).link_refused
    only_refusals := fun hdirectory htextual step hmem fault =>
      hanswered.fault_of_textual State.isTextual_new htextual hdirectory hmem }

end LinkDriver.Gnu
