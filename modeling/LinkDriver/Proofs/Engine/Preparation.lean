import LinkDriver.Proofs.Engine.Gnu
import Mathlib.Data.List.Forall2

/-!
# What becomes of an invocation before it links

An invocation checks the configuration, the output and the inputs before it links. `preparation` is
what becomes of that: a file for each input, or the first failure. It takes neither the linker nor
the dry run into account. Read `invoke_of_prepared` and `invoke_of_unprepared` first: an invocation
that is prepared goes on with its link alone, and any other one ends with the failure.
-/

namespace LinkDriver.Gnu

open LinkDriver.Action

variable {settings : Settings} {host : HostView} {ran : LinkerRun} {state : State}
  {configuration : Configuration} {output : String} {staticOnly : Bool} {item : Item}
  {items : List Item} {file : String} {files : List String}

/-! ## One input -/

/-- The file that an engine takes for an input, or why it takes none. -/
def State.fileOf (host : HostView) (staticOnly : Bool) (state : State) :
    Item → Except CallFailure String
  | .object object => (checkObject host object.path).map fun _ => object.path
  | .namespec spec => state.findLibrary host staticOnly spec.name

/-- The file for an input depends on nothing of the state but its configuration. -/
theorem fileOf_congr {other : State} (h : state.configuration = other.configuration) :
    state.fileOf host staticOnly = other.fileOf host staticOnly := by
  funext item
  cases item with
  | object object => rfl
  | namespec spec =>
      unfold State.fileOf State.findLibrary State.searchDirs
      rw [h]

theorem fileOf_object_eq_ok_iff {object : ObjectFile} :
    state.fileOf host staticOnly (.object object) = .ok file ↔
      checkObject host object.path = .ok () ∧ object.path = file := by
  show (checkObject host object.path).map _ = .ok file ↔ _
  cases checkObject host object.path <;> simp [Except.map]

/-- The stage of an input takes the file for it, or ends with the failure. -/
theorem notedBefore_input (settings : Settings) (host : HostView) (ran : LinkerRun) (item : Item)
    (state : State) :
    NotedBefore (((Stage.input item).perform (engine settings host ran)).run state)
      (match state.fileOf host settings.staticOnly item with
        | .ok file => ⟨[], state.withInput file, .ok ()⟩
        | .error failure => ⟨[], state, .error ((Stage.input item).failure failure)⟩) := by
  obtain ⟨later, hanswer, hnoted⟩ := exists_answer settings host ran item.call state
  have hperformed := Stage.notedBefore_perform (Stage.call_input item) hnoted
  cases item with
  | object object =>
      cases hanswer with
      | objectTaken hcheck | objectFailed hcheck =>
          simp only [State.fileOf, hcheck, Except.map]
          exact hperformed
  | namespec spec =>
      cases hanswer with
      | libraryTaken hfound | libraryFailed hfound =>
          simp only [State.fileOf, hfound]
          exact hperformed

theorem input_taken (h : state.fileOf host settings.staticOnly item = .ok file) :
    NotedBefore (((Stage.input item).perform (engine settings host ran)).run state)
      ⟨[], state.withInput file, .ok ()⟩ := by
  have hinput := notedBefore_input settings host ran item state
  rwa [h] at hinput

theorem input_failed {failure : CallFailure}
    (h : state.fileOf host settings.staticOnly item = .error failure) :
    NotedBefore (((Stage.input item).perform (engine settings host ran)).run state)
      ⟨[], state, .error ((Stage.input item).failure failure)⟩ := by
  have hinput := notedBefore_input settings host ran item state
  rwa [h] at hinput

/-! ## All inputs -/

/-- The files that an engine takes for some inputs, or the failure of the first input for which it
takes none. -/
def State.filesOf (host : HostView) (staticOnly : Bool) (state : State) :
    List Item → Except Failure (List String)
  | [] => .ok []
  | item :: rest =>
    match state.fileOf host staticOnly item with
    | .error failure => .error ((Stage.input item).failure failure)
    | .ok file => (state.filesOf host staticOnly rest).map (file :: ·)

theorem filesOf_congr {other : State} (h : state.configuration = other.configuration) :
    state.filesOf host staticOnly = other.filesOf host staticOnly := by
  funext items
  induction items with
  | nil => rfl
  | cons item rest ih => rw [State.filesOf, State.filesOf, fileOf_congr h, ih]

@[simp] theorem filesOf_withInput :
    (state.withInput file).filesOf host staticOnly = state.filesOf host staticOnly :=
  filesOf_congr rfl

/-- There are files for some inputs exactly if there is one for each. -/
theorem filesOf_eq_ok_iff :
    state.filesOf host staticOnly items = .ok files ↔
      List.Forall₂ (fun item file => state.fileOf host staticOnly item = .ok file) items files := by
  induction items generalizing files with
  | nil => simp [State.filesOf, eq_comm]
  | cons item rest ih =>
      rw [State.filesOf, List.forall₂_cons_left_iff]
      cases hfile : state.fileOf host staticOnly item with
      | error failure => simp
      | ok file =>
          simp only [Except.ok.injEq]
          constructor
          · intro h
            cases hrest : state.filesOf host staticOnly rest with
            | error failure => exact absurd h (by simp [hrest, Except.map])
            | ok others =>
                rw [hrest] at h
                exact ⟨file, others, rfl, ih.mp hrest, (Except.ok.inj h).symm⟩
          · rintro ⟨_, others, rfl, hothers, rfl⟩
            rw [ih.mpr hothers]
            rfl

/-- Where there are files for some inputs, each of them has one. -/
theorem exists_fileOf_of_mem (h : state.filesOf host staticOnly items = .ok files)
    (hmem : item ∈ items) : ∃ file, state.fileOf host staticOnly item = .ok file := by
  have hfiles := filesOf_eq_ok_iff.mp h
  clear h
  induction hfiles with
  | nil => exact absurd hmem (by simp)
  | cons hfile hrest ih =>
      rcases List.mem_cons.mp hmem with rfl | hmem
      · exact ⟨_, hfile⟩
      · exact ih hmem

/-- There are no files for some inputs exactly if one of them has none; the first one of these
gives the failure. -/
theorem filesOf_eq_error_iff {failure : Failure} :
    state.filesOf host staticOnly items = .error failure ↔
      ∃ earlier item later cause, items = earlier ++ item :: later ∧
        (∀ other ∈ earlier, ∃ file, state.fileOf host staticOnly other = .ok file) ∧
        state.fileOf host staticOnly item = .error cause ∧
        failure = (Stage.input item).failure cause := by
  induction items with
  | nil => simp [State.filesOf]
  | cons first rest ih =>
      rw [State.filesOf]
      cases hfirst : state.fileOf host staticOnly first with
      | error cause =>
          constructor
          · intro h
            exact ⟨[], first, rest, cause, rfl, by simp, hfirst, (Except.error.inj h).symm⟩
          · rintro ⟨earlier, item, later, other, hitems, hearlier, hitem, rfl⟩
            cases earlier with
            | nil =>
                obtain ⟨rfl, rfl⟩ := List.cons.inj hitems
                obtain rfl := Except.error.inj (hfirst.symm.trans hitem)
                rfl
            | cons head tail =>
                obtain ⟨rfl, -⟩ := List.cons.inj hitems
                obtain ⟨file, hfile⟩ := hearlier first (List.mem_cons_self ..)
                exact absurd (hfirst.symm.trans hfile) (by simp)
      | ok file =>
          show (state.filesOf host staticOnly rest).map (file :: ·) = .error failure ↔ _
          rw [map_eq_error_iff, ih]
          constructor
          · rintro ⟨earlier, item, later, cause, rfl, hearlier, hitem, rfl⟩
            exact ⟨first :: earlier, item, later, cause, rfl,
              List.forall_mem_cons.mpr ⟨⟨file, hfirst⟩, hearlier⟩, hitem, rfl⟩
          · rintro ⟨earlier, item, later, cause, hitems, hearlier, hitem, rfl⟩
            cases earlier with
            | nil =>
                obtain ⟨rfl, -⟩ := List.cons.inj hitems
                exact absurd (hfirst.symm.trans hitem) (by simp)
            | cons head tail =>
                obtain ⟨rfl, rfl⟩ := List.cons.inj hitems
                exact ⟨tail, item, later, cause, rfl, (List.forall_mem_cons.mp hearlier).2, hitem,
                  rfl⟩

/-- Inputs that all have files are taken one after the other. -/
theorem inputs_taken (h : state.filesOf host settings.staticOnly items = .ok files) :
    NotedBefore
      (((items.map Stage.input).forM (Stage.perform (engine settings host ran))).run state)
      ⟨[], { state with inputs := state.inputs ++ files }, .ok ()⟩ := by
  induction items generalizing state files with
  | nil =>
      obtain rfl : [] = files := Except.ok.inj h
      rw [List.append_nil]
      exact .refl _
  | cons item rest ih =>
      cases filesOf_eq_ok_iff.mp h with
      | @cons _ file _ others hfile hothers =>
          have hrest : (state.withInput file).filesOf host settings.staticOnly rest =
              .ok others := by
            rw [filesOf_withInput]
            exact filesOf_eq_ok_iff.mpr hothers
          have hstate : { state with inputs := state.inputs ++ file :: others } =
              { state.withInput file with inputs := (state.withInput file).inputs ++ others } := by
            simp [State.withInput]
          rw [hstate]
          exact .bind_ok (input_taken hfile) (ih hrest)

/-- The first input without a file ends the stages of the inputs. -/
theorem inputs_failed {failure : Failure}
    (h : state.filesOf host settings.staticOnly items = .error failure) :
    ∃ final, NotedBefore
      (((items.map Stage.input).forM (Stage.perform (engine settings host ran))).run state)
      ⟨[], final, .error failure⟩ := by
  induction items generalizing state with
  | nil => exact absurd h (by simp [State.filesOf])
  | cons item rest ih =>
      rw [State.filesOf] at h
      cases hfile : state.fileOf host settings.staticOnly item with
      | error cause =>
          rw [hfile] at h
          obtain rfl := Except.error.inj h
          exact ⟨state, .bind_error (input_failed hfile)⟩
      | ok file =>
          rw [hfile] at h
          have hrest : (state.withInput file).filesOf host settings.staticOnly rest =
              .error failure := by
            rw [filesOf_withInput]
            exact map_eq_error_iff.mp h
          obtain ⟨final, hnoted⟩ := ih hrest
          exact ⟨final, .bind_ok (input_taken hfile) hnoted⟩

/-! ## The whole preparation -/

/-- What a stage tells of a failed call is a driver error only if the call was refused. -/
theorem refusal_of_failure {stage : Stage} {cause : CallFailure} {error : DriverError}
    (h : stage.failure cause = .driver error) : ∃ detail, error = stage.refusal detail := by
  cases cause with
  | refused detail => exact ⟨detail, (Failure.driver.inj h).symm⟩
  | fault fault => exact absurd h (by simp [Stage.failure])

/-- What becomes of an invocation before it links: the files for all inputs, or the first failure of
the configuration, the output and the inputs. -/
def preparation (host : HostView) (staticOnly : Bool) (configuration : Configuration)
    (output : String) (items : List Item) : Except Failure (List String) :=
  match ((configure configuration).run State.new).result with
  | .error failure => .error ((Stage.configuration configuration).failure failure)
  | .ok () =>
    match checkOutput host output with
    | .error failure => .error ((Stage.output output).failure failure)
    | .ok () => State.filesOf host staticOnly ⟨some configuration, some output, []⟩ items

/-- No failure before the link is about linking. -/
theorem errorClass_of_preparation {error : DriverError}
    (h : preparation host staticOnly configuration output items = .error (.driver error)) :
    error.errorClass ≠ .linkEngine := by
  unfold preparation at h
  split at h
  · obtain ⟨detail, rfl⟩ := refusal_of_failure (Except.error.inj h)
    nofun
  · split at h
    · obtain ⟨detail, rfl⟩ := refusal_of_failure (Except.error.inj h)
      nofun
    · obtain ⟨_, item, _, cause, -, -, -, hfailure⟩ := filesOf_eq_error_iff.mp h
      obtain ⟨detail, rfl⟩ := refusal_of_failure hfailure.symm
      nofun

/-- A configuration is taken unless a portable symbol is blank. -/
theorem notedBefore_configuration (settings : Settings) (host : HostView) (ran : LinkerRun)
    (configuration : Configuration) :
    NotedBefore (((Stage.configuration configuration).perform (engine settings host ran)).run .new)
      ⟨[], ⟨some configuration, none, []⟩,
        ((configure configuration).run State.new).result.mapError
          (Stage.configuration configuration).failure⟩ := by
  obtain ⟨later, hanswer, hnoted⟩ :=
    exists_answer settings host ran (.configure configuration) State.new
  have hresult : ((configure configuration).run State.new).result = later.result :=
    hnoted.result_eq
  have hstate : later.state = ⟨some configuration, none, []⟩ := by cases hanswer <;> rfl
  have hevents : later.events = [] := by cases hanswer <;> rfl
  rw [hresult, ← hstate, ← hevents]
  exact Stage.notedBefore_perform rfl hnoted

/-- An output is taken exactly if nothing stands against it. -/
theorem notedBefore_output (settings : Settings) (host : HostView) (ran : LinkerRun)
    (output : String) (state : State) :
    ∃ final, NotedBefore (((Stage.output output).perform (engine settings host ran)).run state)
      ⟨[], final, (checkOutput host output).mapError (Stage.output output).failure⟩ ∧
      (checkOutput host output = .ok () → final = { state with output := some output }) := by
  obtain ⟨later, hanswer, hnoted⟩ := exists_answer settings host ran (.setOutput output) state
  have hperformed :
      NotedBefore (((Stage.output output).perform (engine settings host ran)).run state)
        ⟨later.events, later.state, later.result.mapError (Stage.output output).failure⟩ :=
    Stage.notedBefore_perform rfl hnoted
  cases hanswer with
  | outputTaken hcheck =>
      rw [hcheck]
      exact ⟨_, hperformed, fun _ => rfl⟩
  | outputFailed hcheck =>
      rw [hcheck]
      exact ⟨_, hperformed, fun hok => absurd hok (by simp)⟩

/-- The stages of an invocation, one after the other. -/
theorem invoke_eq {σ : Type} (engine : Engine σ) (configuration : Configuration) (output : String)
    (items : List Item) :
    invoke engine configuration output (items.map .item) = (do
      (Stage.configuration configuration).perform engine
      (Stage.output output).perform engine
      (items.map Stage.input).forM (Stage.perform engine)
      (Stage.link output).perform engine) := by
  have hentries : (items.map PlanEntry.item).map PlanEntry.stage = items.map Stage.input := by
    rw [List.map_map]
    rfl
  unfold invoke stages
  rw [hentries]
  simp only [List.forM_eq_forM, List.cons_append, List.forM_cons, List.forM_append, List.forM_nil,
    bind_pure_unit]

/-- An invocation that is prepared goes on with its link, on a state that holds all that it was
told and found. -/
theorem invoke_of_prepared (ran : LinkerRun)
    (h : preparation host settings.staticOnly configuration output items = .ok files) :
    NotedBefore
      ((invoke (engine settings host ran) configuration output (items.map .item)).run .new)
      (((Stage.link output).perform (engine settings host ran)).run
        ⟨some configuration, some output, files⟩) := by
  have hconfigured := notedBefore_configuration settings host ran configuration
  unfold preparation at h
  split at h
  · exact absurd h (by simp)
  · rename_i hconfigure
    split at h
    · exact absurd h (by simp)
    · rename_i hcheck
      obtain ⟨final, hopened, hfinal⟩ :=
        notedBefore_output settings host ran output ⟨some configuration, none, []⟩
      rw [hconfigure] at hconfigured
      rw [hcheck, hfinal hcheck] at hopened
      rw [invoke_eq]
      exact .bind_ok hconfigured (.bind_ok hopened (.bind_ok (inputs_taken h) (.refl _)))

/-- An invocation that is not prepared ends with its first failure. -/
theorem invoke_of_unprepared (ran : LinkerRun) {failure : Failure}
    (h : preparation host settings.staticOnly configuration output items = .error failure) :
    ∃ final, NotedBefore
      ((invoke (engine settings host ran) configuration output (items.map .item)).run .new)
      ⟨[], final, .error failure⟩ := by
  have hconfigured := notedBefore_configuration settings host ran configuration
  rw [invoke_eq]
  unfold preparation at h
  split at h
  · rename_i hconfigure
    rw [hconfigure] at hconfigured
    obtain rfl := Except.error.inj h
    exact ⟨_, .bind_error hconfigured⟩
  · rename_i hconfigure
    rw [hconfigure] at hconfigured
    obtain ⟨final, hopened, hfinal⟩ :=
      notedBefore_output settings host ran output ⟨some configuration, none, []⟩
    split at h
    · rename_i hcheck
      rw [hcheck] at hopened
      obtain rfl := Except.error.inj h
      exact ⟨final, .bind_ok hconfigured (.bind_error hopened)⟩
    · rename_i hcheck
      rw [hcheck, hfinal hcheck] at hopened
      obtain ⟨last, hfailed⟩ := inputs_failed h
      exact ⟨last, .bind_ok hconfigured (.bind_ok hopened (.bind_error hfailed))⟩

end LinkDriver.Gnu
