import LinkDriver.Proofs.Exchange

/-!
# The protocol of an engine

An engine is to be told the configuration, the output, each input in the order of the plan, and at
last to link. `ObeysProtocol` says what this means for the calls that are made and for the outcome
that follows from them. Read `invoke_obeys_protocol` first: every invocation obeys the protocol,
whatever its engine does.
-/

namespace LinkDriver

/-- The call that hands an input to an engine. -/
def Item.call : Item → Call
  | object file => .addObject file.path
  | namespec spec => .addNamespec spec.name

/-- The calls of a whole invocation, in their order. -/
def protocol (configuration : Configuration) (output : String) (items : List Item) : List Call :=
  .configure configuration :: .setOutput output :: items.map Item.call ++ [.link]

variable {configuration : Configuration} {output : String} {items : List Item}

/-! ## The stages of the protocol -/

theorem Item.call_ne_link (item : Item) : item.call ≠ .link := by
  cases item <;> simp [call]

theorem Stage.call_input (item : Item) : (Stage.input item).call = .ok item.call := by
  cases item <;> rfl

/-- The stages of an invocation make the calls of the protocol. -/
theorem map_call_stages :
    (stages configuration output (items.map .item)).map Stage.call =
      (protocol configuration output items).map .ok := by
  have hinputs : items.map (Stage.call ∘ PlanEntry.stage ∘ PlanEntry.item) =
      items.map (Except.ok ∘ Item.call) :=
    List.map_congr_left fun item _ => Stage.call_input item
  simp only [stages, protocol, List.map_cons, List.map_append, List.map_map, List.map_nil,
    List.cons_append]
  rw [hinputs]
  rfl

/-- Every stage of a plan of inputs has a call. -/
theorem call_of_mem_stages {stage : Stage}
    (h : stage ∈ stages configuration output (items.map .item)) :
    ∃ call, stage.call = .ok call := by
  have hcall : stage.call ∈ (stages configuration output (items.map .item)).map Stage.call :=
    List.mem_map_of_mem h
  rw [map_call_stages] at hcall
  obtain ⟨call, -, hcall⟩ := List.mem_map.mp hcall
  exact ⟨call, hcall.symm⟩

/-- Which stage stands at a place of an invocation. -/
theorem stage_cases {place : Nat} {stage : Stage}
    (h : (stages configuration output (items.map .item))[place]? = some stage) :
    stage = .configuration configuration ∨ stage = .output output ∨
      (∃ index item, place = index + 2 ∧ items[index]? = some item ∧ stage = .input item) ∨
      stage = .link output := by
  match place with
  | 0 => exact Or.inl (Option.some.inj h).symm
  | 1 => exact Or.inr (Or.inl (Option.some.inj h).symm)
  | index + 2 =>
      right; right
      have hrest : ((items.map PlanEntry.item).map PlanEntry.stage ++
          [Stage.link output])[index]? = some stage := h
      by_cases hlt : index < items.length
      · rw [List.getElem?_append_left (by simpa using hlt), List.map_map, List.getElem?_map,
          Option.map_eq_some_iff] at hrest
        obtain ⟨item, hitem, rfl⟩ := hrest
        exact Or.inl ⟨index, item, rfl, hitem, rfl⟩
      · rw [List.getElem?_append_right (by simpa using Nat.le_of_not_lt hlt)] at hrest
        have hmem := List.mem_of_getElem? hrest
        exact Or.inr (List.mem_singleton.mp hmem)

/-! ## Errors of the protocol -/

/-- `Explains items place detail call error` says the error tells what the engine had to say, and
is the one for a call at a place of the protocol: it has the class of the operation, and carries the
output path or the input that was refused. -/
def Explains (items : List Item) (place : Nat) (detail : String) (call : Call)
    (error : DriverError) : Prop :=
  detail.toList <:+: error.message.toList ∧
    match call with
    | .configure _ => error.errorClass = .configuration
    | .setOutput path => error.errorClass = .fileOpen ∧ error.filename? = some path
    | .addObject _ | .addNamespec _ =>
      error.errorClass = .inputResolution ∧
        ∃ index item, place = index + 2 ∧ items[index]? = some item ∧ error.item? = some item
    | .link => error.errorClass = .linkEngine

theorem DriverError.detail_infix_detailed (complaint before detail : String) :
    detail.toList <:+: (detailed complaint (before ++ detail)).toList :=
  ⟨complaint.toList ++ " (detail: ".toList ++ before.toList, ")".toList, by simp [detailed]⟩

/-- Every refusal tells its detail. -/
theorem Stage.detail_infix_message (stage : Stage) (detail : String) :
    detail.toList <:+: (stage.refusal detail).message.toList := by
  have hplain : ∀ complaint, detail.toList <:+: (DriverError.detailed complaint detail).toList :=
    fun complaint => by simpa using DriverError.detail_infix_detailed complaint "" detail
  cases stage with
  | configuration | link | foreign => exact hplain _
  | output path => exact DriverError.detail_infix_detailed _ (path ++ ": ") detail
  | input item =>
      cases item with
      | object file => exact DriverError.detail_infix_detailed _ (file.path ++ ": ") detail
      | namespec spec =>
          exact DriverError.detail_infix_detailed _ (spec.name.display ++ ": ") detail

/-- The refusal of a stage explains its call. -/
theorem explains_refusal {place : Nat} {stage : Stage} {call : Call}
    (hstage : (stages configuration output (items.map .item))[place]? = some stage)
    (hcall : stage.call = .ok call) (detail : String) :
    Explains items place detail call (stage.refusal detail) := by
  refine ⟨stage.detail_infix_message detail, ?_⟩
  rcases stage_cases hstage with rfl | rfl | ⟨index, item, hplace, hitem, rfl⟩ | rfl
  · obtain rfl := Except.ok.inj hcall
    rfl
  · obtain rfl := Except.ok.inj hcall
    exact ⟨rfl, rfl⟩
  · have hcarries : (Stage.refusal (.input item) detail).errorClass = .inputResolution ∧
        ∃ index item', place = index + 2 ∧ items[index]? = some item' ∧
          (Stage.refusal (.input item) detail).item? = some item' :=
      ⟨rfl, index, item, hplace, hitem, rfl⟩
    rw [Stage.call_input] at hcall
    obtain rfl := Except.ok.inj hcall
    cases item with
    | object | namespec => exact hcarries
  · obtain rfl := Except.ok.inj hcall
    rfl

/-! ## The protocol is obeyed -/

/-- `ObeysProtocol engine configuration output items state made outcome` says that an invocation
which made these calls of the engine, from this state, and ended with this outcome did what the
protocol asks. -/
structure ObeysProtocol {σ : Type} (engine : Engine σ) (configuration : Configuration)
    (output : String) (items : List Item) (state : σ) (made : List (MadeCall σ))
    (outcome : Outcome σ Failure Unit) : Prop where
  /-- Some call is made, and the calls are those of the protocol from the first one on. -/
  begins : made ≠ [] ∧ made.map MadeCall.call <+: protocol configuration output items
  /-- Each call runs on the state that the one before left, and the last one leaves the outcome's
  state. -/
  chained : Chained engine state made outcome.state
  /-- Nothing is called after a call that failed. -/
  stops : ∀ step ∈ made.dropLast, step.passed = true
  /-- The calls that succeeded are the whole protocol exactly if no call failed. -/
  whole_iff : (made.filter MadeCall.passed).map MadeCall.call =
    protocol configuration output items ↔ ∀ step ∈ made, step.passed = true
  /-- The invocation ends well exactly if no call failed. -/
  ends_well_iff : outcome.result = .ok () ↔ ∀ step ∈ made, step.passed = true
  /-- A refusal becomes the driver error that explains it. -/
  refused : ∀ earlier last detail, made = earlier ++ [last] →
    last.outcome.result = .error (.refused detail) → ∃ error,
      outcome.result = .error (.driver error) ∧
        Explains items earlier.length detail last.call error
  /-- What the engine has no answer to stays what it is. -/
  faulted : ∀ earlier last fault, made = earlier ++ [last] →
    last.outcome.result = .error (.fault fault) → outcome.result = .error (.fault fault)
  /-- The engine links at most once. -/
  links_once : (made.map MadeCall.call).count .link ≤ 1
  /-- The engine links only when all before it is done. -/
  links_last : ∀ step ∈ made, step.call = .link →
    made.map MadeCall.call = protocol configuration output items

/-- The call to link is the last one of the protocol alone. -/
theorem link_not_mem :
    .link ∉ Call.configure configuration :: .setOutput output :: items.map Item.call := by
  intro hmem
  obtain ⟨item, -, hcall⟩ : ∃ item ∈ items, item.call = .link := by simpa using hmem
  exact item.call_ne_link hcall

/-- The protocol sets no other output. -/
theorem eq_of_setOutput_mem {path : String}
    (h : .setOutput path ∈ protocol configuration output items) : path = output := by
  have hcases : path = output ∨ ∃ item ∈ items, item.call = .setOutput path := by
    simpa [protocol] using h
  rcases hcases with hpath | ⟨item, -, hcall⟩
  · exact hpath
  · cases item <;> exact absurd hcall (by simp [Item.call])

/-- Calls of the protocol from the first one on, with the call to link, are all of it. -/
theorem eq_protocol_of_link_mem {calls : List Call}
    (hbegins : calls <+: protocol configuration output items) (hlink : .link ∈ calls) :
    calls = protocol configuration output items := by
  rcases List.prefix_concat_iff.mp hbegins with hwhole | hearlier
  · exact hwhole
  · exact absurd (hearlier.subset hlink) link_not_mem

theorem count_link_le {calls : List Call}
    (hbegins : calls <+: protocol configuration output items) : calls.count .link ≤ 1 := by
  have hcount : (protocol configuration output items).count .link =
      (Call.configure configuration :: .setOutput output :: items.map Item.call).count .link +
        [Call.link].count .link := List.count_append
  rw [List.count_eq_zero_of_not_mem link_not_mem] at hcount
  calc calls.count .link
      ≤ (protocol configuration output items).count .link := hbegins.sublist.count_le .link
    _ = 1 := hcount

/-- Every invocation is an exchange. -/
theorem exists_exchange_invoke {σ : Type} (engine : Engine σ) (configuration : Configuration)
    (output : String) (items : List Item) (state : σ) :
    ∃ made, Exchange engine (stages configuration output (items.map .item)) state made
      ((invoke engine configuration output (items.map .item)).run state) :=
  exists_exchange engine (fun _ => call_of_mem_stages) state

namespace Exchange

variable {σ : Type} {engine : Engine σ} {state : σ} {made : List (MadeCall σ)}
  {outcome : Outcome σ Failure Unit}

/-- The calls that succeeded are the whole protocol exactly if no call failed. -/
theorem protocol_iff
    (h : Exchange engine (stages configuration output (items.map .item)) state made outcome) :
    (made.filter MadeCall.passed).map MadeCall.call = protocol configuration output items ↔
      ∀ step ∈ made, step.passed = true := by
  have hbegins := h.calls_begin map_call_stages
  constructor
  · intro hwhole
    have hfilter := congrArg List.length hwhole
    have hmade := hbegins.length_le
    have hpart := List.length_filter_le MadeCall.passed made
    rw [List.length_map] at hfilter hmade
    exact List.length_filter_eq_length_iff.mp (by omega)
  · intro hpassed
    rw [List.filter_eq_self.mpr hpassed]
    refine hbegins.eq_of_length ?_
    rw [List.length_map, h.length_of_passed hpassed]
    simp [stages, protocol]

/-- An exchange over the stages of an invocation obeys the protocol. -/
theorem obeysProtocol
    (h : Exchange engine (stages configuration output (items.map .item)) state made outcome) :
    ObeysProtocol engine configuration output items state made outcome := by
  have hbegins := h.calls_begin map_call_stages
  constructor
  case begins => exact ⟨h.made_ne_nil (by simp [stages]), hbegins⟩
  case chained => exact h.chained
  case stops => exact h.passed_of_mem_dropLast
  case whole_iff => exact h.protocol_iff
  case ends_well_iff => exact h.result_eq_ok_iff
  case refused =>
    intro earlier last detail hmade hrefused
    obtain ⟨stage, hstage, hcall, herror⟩ := h.result_of_failed hmade hrefused
    exact ⟨stage.refusal detail, herror, explains_refusal hstage hcall detail⟩
  case faulted =>
    intro earlier last fault hmade hfault
    obtain ⟨stage, -, -, herror⟩ := h.result_of_failed hmade hfault
    exact herror
  case links_once => exact count_link_le hbegins
  case links_last =>
    intro step hmem hlink
    exact eq_protocol_of_link_mem hbegins (hlink ▸ List.mem_map_of_mem hmem)

end Exchange

/-- Every invocation obeys the protocol of its engine. The calls are those that an engine sees which
keeps them, and keeping them changes neither the events, nor the state, nor the result. -/
theorem invoke_obeys_protocol {σ : Type} (engine : Engine σ) (configuration : Configuration)
    (output : String) (items : List Item) (state : σ) :
    let outcome := (invoke engine configuration output (items.map .item)).run state
    ∃ made,
      (invoke engine.traced configuration output (items.map .item)).run (state, []) =
        ⟨outcome.events, (outcome.state, made), outcome.result⟩ ∧
      ObeysProtocol engine configuration output items state made outcome := by
  obtain ⟨made, hexchange⟩ := exists_exchange_invoke engine configuration output items state
  exact ⟨made, hexchange.run_traced [], hexchange.obeysProtocol⟩

end LinkDriver
