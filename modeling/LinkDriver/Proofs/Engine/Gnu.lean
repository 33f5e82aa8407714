import LinkDriver.Proofs.Engine.CommandRun
import LinkDriver.Proofs.OutputPath
import LinkDriver.Proofs.Protocol

/-!
# The calls of the engine that runs a linker

`Answer settings host ran state call outcome` says what the engine can do with a call, apart from
mere notes; read `exists_answer` first. What is kept by every call follows by cases on the answer.
Where no text is blank, the only faults are that of an output without an absolute path and that of
the command (`Answer.fault_of_textual`).
-/

namespace LinkDriver.Gnu

open LinkDriver.Action

variable {settings : Settings} {host : HostView} {ran : LinkerRun} {state : State} {call : Call}

/-- A state with one more input. -/
def State.withInput (state : State) (path : String) : State :=
  { state with inputs := state.inputs ++ [path] }

/-- What the engine does with a call on a state, apart from the notes that it takes before. -/
inductive Answer (settings : Settings) (host : HostView) (ran : LinkerRun) (state : State) :
    Call → Outcome State CallFailure Unit → Prop where
  | configured {configuration} : .blank ∉ configuration.portables →
      Answer settings host ran state (.configure configuration)
        ⟨[], { state with configuration := some configuration }, .ok ()⟩
  | portableBlank {configuration} : .blank ∈ configuration.portables →
      Answer settings host ran state (.configure configuration)
        ⟨[], { state with configuration := some configuration },
          .error (.fault (.blank (.joined (configuration.portables.findIdx (· == .blank)))))⟩
  | outputTaken {path} : checkOutput host path = .ok () →
      Answer settings host ran state (.setOutput path)
        ⟨[], { state with output := some path }, .ok ()⟩
  | outputFailed {path failure} : checkOutput host path = .error failure →
      Answer settings host ran state (.setOutput path) ⟨[], state, .error failure⟩
  | objectTaken {path} : checkObject host path = .ok () →
      Answer settings host ran state (.addObject path) ⟨[], state.withInput path, .ok ()⟩
  | objectFailed {path failure} : checkObject host path = .error failure →
      Answer settings host ran state (.addObject path) ⟨[], state, .error failure⟩
  | libraryTaken {name file} : state.findLibrary host settings.staticOnly name = .ok file →
      Answer settings host ran state (.addNamespec name) ⟨[], state.withInput file, .ok ()⟩
  | libraryFailed {name failure} :
      state.findLibrary host settings.staticOnly name = .error failure →
      Answer settings host ran state (.addNamespec name) ⟨[], state, .error failure⟩
  | notReady : state.command? settings = none →
      Answer settings host ran state .link
        ⟨[], state, .error (.refused "Engine is not configured")⟩
  | commandFailed {fault} : state.command? settings = some (.error fault) →
      Answer settings host ran state .link ⟨[], state, .error (.fault fault)⟩
  | printed {command} : state.command? settings = some (.ok command) → settings.dryRun = true →
      Answer settings host ran state .link ⟨[.print (command.shellText ++ "\n")], state, .ok ()⟩
  | handed {command later} : state.command? settings = some (.ok command) →
      settings.dryRun = false → Handed ran command state later →
      Answer settings host ran state .link later

/-! ## Every call is answered -/

theorem exists_answer_configure (configuration : Configuration) (state : State) :
    ∃ later, Answer settings host ran state (.configure configuration) later ∧
      NotedBefore ((configure configuration).run state) later := by
  unfold configure notePortables
  by_cases hnone : configuration.portables = []
  · refine ⟨_, .configured (by simp [hnone]), ?_⟩
    rw [if_pos hnone]
    exact .refl _
  · rw [if_neg hnone]
    cases htexts : texts? configuration.portables with
    | none =>
        exact ⟨_, .portableBlank (texts?_eq_none_iff.mp htexts), .bind_ok (.refl _) (.refl _)⟩
    | some names =>
        refine ⟨_, .configured ?_, .bind_ok (.refl _) (.log _ _ _ _)⟩
        intro hblank
        rw [texts?_eq_none_iff.mpr hblank] at htexts
        exact absurd htexts (by simp)

theorem exists_answer_setOutput (path : String) (state : State) :
    ∃ later, Answer settings host ran state (.setOutput path) later ∧
      NotedBefore ((setOutput host path).run state) later := by
  unfold setOutput
  cases hcheck : checkOutput host path with
  | error failure => exact ⟨_, .outputFailed hcheck, .bind_error (.refl _)⟩
  | ok => exact ⟨_, .outputTaken hcheck, .bind_ok (.refl _) (.refl _)⟩

theorem exists_answer_addObject (path : String) (state : State) :
    ∃ later, Answer settings host ran state (.addObject path) later ∧
      NotedBefore ((addObject host path).run state) later := by
  unfold addObject
  cases hcheck : checkObject host path with
  | error failure => exact ⟨_, .objectFailed hcheck, .bind_error (.refl _)⟩
  | ok => exact ⟨_, .objectTaken hcheck, .bind_ok (.refl _) (.refl _)⟩

theorem exists_answer_addNamespec (name : Value) (state : State) :
    ∃ later, Answer settings host ran state (.addNamespec name) later ∧
      NotedBefore ((addNamespec settings host name).run state) later := by
  unfold addNamespec
  cases hfound : state.findLibrary host settings.staticOnly name with
  | error failure =>
      refine ⟨_, .libraryFailed hfound, .bind_ok (.refl _) (.bind_error ?_)⟩
      rw [run_ofExcept, hfound]
      exact .refl _
  | ok file =>
      have hlooked : NotedBefore ((Action.ofExcept (state.findLibrary host settings.staticOnly
          name) : EngineAction String).run state) ⟨[], state, .ok file⟩ := by
        rw [run_ofExcept, hfound]
        exact .refl _
      refine ⟨_, .libraryTaken hfound, .bind_ok (.refl _) (.bind_ok hlooked ?_)⟩
      exact .bind_ok (.log _ _ _ state) (.refl _)

/-- In a dry run a link with a command prints it, and ends well. -/
theorem link_printed {command : Command} (hcommand : state.command? settings = some (.ok command))
    (hdry : settings.dryRun = true) (ran : LinkerRun) :
    NotedBefore ((link settings ran).run state)
      ⟨[.print (command.shellText ++ "\n")], state, .ok ()⟩ := by
  unfold link
  refine .bind_ok (.refl _) ?_
  simp only [hcommand, hdry]
  exact .bind_ok (.refl _) (.bind_ok (.log _ _ _ state) (.refl _))

/-- Otherwise a link with a command hands it to the system, and ends as that does. -/
theorem link_handed {command : Command} (hcommand : state.command? settings = some (.ok command))
    (hdry : settings.dryRun = false) (ran : LinkerRun) :
    NotedBefore ((link settings ran).run state) ((runCommand ran command).run state) := by
  unfold link
  refine .bind_ok (.refl _) ?_
  simp only [hcommand, hdry]
  exact .bind_ok (.refl _) (.bind_ok (.log _ _ _ state) (.refl _))

theorem exists_answer_link (state : State) :
    ∃ later, Answer settings host ran state .link later ∧
      NotedBefore ((link settings ran).run state) later := by
  cases hcommand : state.command? settings with
  | none =>
      refine ⟨_, .notReady hcommand, ?_⟩
      unfold link
      refine .bind_ok (.refl _) ?_
      simp only [hcommand]
      exact .refl _
  | some composed =>
      cases composed with
      | error fault =>
          refine ⟨_, .commandFailed hcommand, ?_⟩
          unfold link
          refine .bind_ok (.refl _) ?_
          simp only [hcommand]
          exact .bind_error (.refl _)
      | ok command =>
          cases hdry : settings.dryRun with
          | true => exact ⟨_, .printed hcommand hdry, link_printed hcommand hdry ran⟩
          | false =>
              exact ⟨_, .handed hcommand hdry (handed_runCommand ran command state),
                link_handed hcommand hdry ran⟩

/-- The engine answers every call, after mere notes. -/
theorem exists_answer (settings : Settings) (host : HostView) (ran : LinkerRun) (call : Call)
    (state : State) :
    ∃ later, Answer settings host ran state call later ∧
      NotedBefore (((engine settings host ran).perform call).run state) later := by
  cases call with
  | configure configuration => exact exists_answer_configure configuration state
  | setOutput path => exact exists_answer_setOutput path state
  | addObject path => exact exists_answer_addObject path state
  | addNamespec name => exact exists_answer_addNamespec name state
  | link => exact exists_answer_link state

/-- Finding a library by its name is looking it up in the search directories. -/
theorem findLibrary_eq_ok_iff {staticOnly : Bool} {directories : List String} {name : Value}
    {file : String} (hdirectories : state.searchDirs = .ok directories) :
    state.findLibrary host staticOnly name = .ok file ↔
      ∃ text, name = .text text ∧
        lookUp? host directories (libraryNames staticOnly text) = some file := by
  unfold State.findLibrary
  rw [hdirectories]
  cases name with
  | blank => simp
  | text text =>
      cases hfound : lookUp? host directories (libraryNames staticOnly text) <;> simp [hfound]

/-! ## Faults -/

/-- No blank stands where the call needs a text. -/
def IsTextual : Call → Prop
  | .configure configuration =>
    .blank ∉ configuration.portables ∧ .blank ∉ configuration.searchDirs
  | .addNamespec name => name ≠ .blank
  | _ => True

/-- No search directory of the state is blank. -/
def State.IsTextual (state : State) : Prop :=
  ∀ configuration, state.configuration = some configuration → .blank ∉ configuration.searchDirs

theorem State.isTextual_new : State.new.IsTextual := by
  intro configuration hnone
  exact absurd hnone (by simp [State.new])

/-- Textual calls keep a state textual. -/
theorem Answer.state_isTextual {later : Outcome State CallFailure Unit}
    (h : Answer settings host ran state call later) (hcall : IsTextual call)
    (hstate : state.IsTextual) : later.state.IsTextual := by
  cases h with
  | configured | portableBlank =>
      intro configuration hsome
      obtain rfl := Option.some.inj hsome
      exact hcall.2
  | outputTaken | outputFailed | objectTaken | objectFailed | libraryTaken | libraryFailed
  | notReady | commandFailed | printed => exact hstate
  | handed _ _ hhanded => rwa [hhanded.state_eq]

theorem searchDirsOf_textual {configuration : Configuration}
    (h : .blank ∉ configuration.searchDirs) :
    ∃ directories, searchDirsOf configuration = .ok directories := by
  unfold searchDirsOf
  cases htexts : texts? configuration.searchDirs with
  | none => exact absurd (texts?_eq_none_iff.mp htexts) h
  | some directories => exact ⟨_, rfl⟩

theorem State.searchDirs_textual (hstate : state.IsTextual) :
    ∃ directories, state.searchDirs = .ok directories := by
  unfold State.searchDirs
  cases hconfiguration : state.configuration with
  | none => exact ⟨[], rfl⟩
  | some configuration => exact searchDirsOf_textual (hstate configuration hconfiguration)

/-- A textual name is found in the search directories, or its library is missing. -/
theorem findLibrary_ne_fault {staticOnly : Bool} {directories : List String} {name : Value}
    (hname : name ≠ .blank) (hdirectories : state.searchDirs = .ok directories) (fault : Fault) :
    state.findLibrary host staticOnly name ≠ .error (.fault fault) := by
  unfold State.findLibrary
  cases name with
  | blank => exact absurd rfl hname
  | text name =>
      rw [hdirectories]
      simp only
      split <;> simp

/-- A configuration with a blank among its portable symbols has the fault of that symbol. -/
theorem result_configure_blank {configuration : Configuration}
    (h : .blank ∈ configuration.portables) (state : State) :
    ((configure configuration).run state).result =
      .error (.fault (.blank (.joined (configuration.portables.findIdx (· == .blank))))) := by
  have hsome : configuration.portables ≠ [] := List.ne_nil_of_mem h
  unfold configure notePortables
  rw [if_neg hsome, texts?_eq_none_iff.mpr h]
  rfl

/-- A configuration without a blank among its portable symbols is taken. -/
theorem result_configure {configuration : Configuration} (h : .blank ∉ configuration.portables)
    (state : State) : ((configure configuration).run state).result = .ok () := by
  unfold configure notePortables
  by_cases hnone : configuration.portables = []
  · rw [if_pos hnone]
    rfl
  · rw [if_neg hnone]
    cases htexts : texts? configuration.portables with
    | none => exact absurd (texts?_eq_none_iff.mp htexts) h
    | some names => rfl

/-- The command of a textual state has no fault. -/
theorem command?_textual (hstate : state.IsTextual) (fault : Fault) :
    state.command? settings ≠ some (.error fault) := by
  unfold State.command?
  split
  · rename_i configuration output hconfiguration houtput
    obtain ⟨directories, hdirectories⟩ :=
      searchDirsOf_textual (hstate configuration hconfiguration)
    simp [State.draft, hconfiguration, hdirectories, Except.map]
  · simp

/-- Setting the output is faulty exactly if the output has no absolute path. -/
theorem checkOutput_fault_iff {path : String} {fault : Fault} :
    checkOutput host path = .error (.fault fault) ↔
      fault = .directoryGone ∧ host.absolute? path = none := by
  unfold checkOutput
  cases habsolute : host.absolute? path with
  | none => simp [eq_comm]
  | some absolute =>
      simp only [reduceCtorEq, and_false, iff_false]
      split
      · simp
      · split
        · simp
        · split <;> simp

theorem checkObject_ne_fault (host : HostView) (path : String) (fault : Fault) :
    checkObject host path ≠ .error (.fault fault) := by
  unfold checkObject
  split
  · simp
  · split
    · simp
    · split <;> simp

/-- The only faults of a textual call on a textual state are that of an output without an absolute
path and that of the command. -/
theorem Answer.fault_of_textual {later : Outcome State CallFailure Unit}
    (h : Answer settings host ran state call later) (hcall : IsTextual call)
    (hstate : state.IsTextual) {fault : Fault} (hfault : later.result = .error (.fault fault)) :
    (∃ path, call = .setOutput path ∧ fault = .directoryGone ∧ host.absolute? path = none) ∨
      call = .link ∧ settings.dryRun = false ∧ ran.fault? = some fault := by
  cases h with
  | configured | outputTaken | objectTaken | libraryTaken | printed =>
      exact absurd hfault (by simp)
  | notReady => exact absurd hfault (by simp)
  | portableBlank hblank => exact absurd hblank hcall.1
  | @outputFailed path failure hcheck =>
      obtain rfl := Except.error.inj hfault
      exact Or.inl ⟨path, rfl, checkOutput_fault_iff.mp hcheck⟩
  | @objectFailed path failure hcheck =>
      obtain rfl := Except.error.inj hfault
      exact absurd hcheck (checkObject_ne_fault host path fault)
  | libraryFailed hfound =>
      obtain rfl := Except.error.inj hfault
      obtain ⟨directories, hdirectories⟩ := State.searchDirs_textual hstate
      exact absurd hfound (findLibrary_ne_fault hcall hdirectories fault)
  | @commandFailed other hcommand => exact absurd hcommand (command?_textual hstate other)
  | handed _ hdry hhanded => exact Or.inr ⟨rfl, hdry, hhanded.result_eq_fault_iff.mp hfault⟩

end LinkDriver.Gnu
