import LinkDriver.Proofs.Engine.Preparation

/-!
# What stands ready for a link

A preparation is decided by what stands ready on the host: the output must be writable, the object
files readable, and a file be there for each library. Read `exists_preparation_iff` first: an input
is `Taken` if it is ready and no blank stands in the way. Without a blank, the first failure is that
of the output (`preparation_of_output`), or else of the first input that is not ready
(`preparation_of_input`); with one, it may be a fault (`preparation_fault_iff`).
-/

namespace LinkDriver.Gnu

open LinkDriver.Action

/-! ## What stands ready -/

/-- The output can be written: the directory of its absolute path is one, and may be written, and
the output is no directory. -/
def OutputReady (host : HostView) (output : String) : Prop :=
  ∃ absolute, host.absolute? output = some absolute ∧
    host.isDirectory (Path.directory absolute) = true ∧
    host.isWritable (Path.directory absolute) = true ∧ host.isDirectory output = false

/-- The input can be read: an object file is a regular file that may be read, and a library has a
regular file under one of its names in one of the directories. -/
def InputReady (host : HostView) (staticOnly : Bool) (directories : List String) : Item → Prop
  | .object object => host.isFile object.path = true ∧ host.isReadable object.path = true
  | .namespec spec => ∃ text, spec.name = .text text ∧
    ∃ file ∈ candidates directories (libraryNames staticOnly text), host.isFile file = true

/-- The output and all inputs stand ready. -/
def Ready (host : HostView) (staticOnly : Bool) (directories : List String) (output : String)
    (items : List Item) : Prop :=
  OutputReady host output ∧ ∀ item ∈ items, InputReady host staticOnly directories item

/-- The engine takes the input: an object file that is ready, or a library that is ready in
directories of which none is blank. -/
def Taken (host : HostView) (staticOnly : Bool) (configuration : Configuration) : Item → Prop
  | .object object => InputReady host staticOnly [] (.object object)
  | .namespec spec => ∃ directories, searchDirsOf configuration = .ok directories ∧
    InputReady host staticOnly directories (.namespec spec)

variable {host : HostView} {staticOnly : Bool} {configuration : Configuration}
  {directories : List String} {output : String} {item : Item} {items : List Item} {fault : Fault}

/-! ## Checks -/

theorem checkOutput_eq_ok_iff : checkOutput host output = .ok () ↔ OutputReady host output := by
  unfold checkOutput OutputReady
  cases habsolute : host.absolute? output with
  | none => simp
  | some absolute =>
      simp only [Option.some.injEq, exists_eq_left']
      split
      · simp_all
      · split
        · simp_all
        · split <;> simp_all

/-- With a working directory, an output that is not ready is refused. -/
theorem checkOutput_refused (hdirectory : host.workingDirectory ≠ none)
    (h : ¬ OutputReady host output) :
    ∃ detail, checkOutput host output = .error (.refused detail) := by
  cases hcheck : checkOutput host output with
  | ok => exact absurd (checkOutput_eq_ok_iff.mp hcheck) h
  | error failure =>
      cases failure with
      | refused detail => exact ⟨detail, rfl⟩
      | fault fault =>
          obtain ⟨-, hnone⟩ := checkOutput_fault_iff.mp hcheck
          exact absurd (OutputPath.absolute?_eq_none_iff.mp hnone).1 hdirectory

theorem checkObject_eq_ok_iff {path : String} :
    checkObject host path = .ok () ↔ host.isFile path = true ∧ host.isReadable path = true := by
  have hholds : host.isFile path = true → host.holds path = true := host.holds_of_isFile
  unfold checkObject
  split
  · simp_all
  · split
    · simp_all
    · split <;> simp_all

/-- A library is found exactly if a regular file stands at a path at which it is looked up. -/
theorem exists_lookUp?_iff {names : List String} :
    (∃ file, lookUp? host directories names = some file) ↔
      ∃ file ∈ candidates directories names, host.isFile file = true := by
  rw [← Option.isSome_iff_exists]
  exact List.find?_isSome

/-! ## Inputs -/

/-- The search directories of a configuration have a fault exactly if one of them is blank. -/
theorem searchDirsOf_eq_error_iff :
    searchDirsOf configuration = .error fault ↔
      fault = .blank .inspected ∧ .blank ∈ configuration.searchDirs := by
  rw [← texts?_eq_none_iff, searchDirsOf]
  cases texts? configuration.searchDirs <;> simp [eq_comm]

/-- An engine with this configuration takes a file for exactly the inputs that are taken. -/
theorem exists_fileOf_iff :
    (∃ file, State.fileOf host staticOnly ⟨some configuration, some output, []⟩ item = .ok file) ↔
      Taken host staticOnly configuration item := by
  cases item with
  | object object =>
      simp only [fileOf_object_eq_ok_iff, checkObject_eq_ok_iff, exists_and_left, exists_eq',
        and_true]
      rfl
  | namespec spec =>
      cases hdirectories : searchDirsOf configuration with
      | ok directories =>
          have hsearched : State.searchDirs ⟨some configuration, some output, []⟩ =
              .ok directories := hdirectories
          simp only [Taken, hdirectories, Except.ok.injEq, exists_eq_left', InputReady,
            ← exists_lookUp?_iff, State.fileOf, findLibrary_eq_ok_iff hsearched]
          constructor
          · rintro ⟨file, text, htext, hfile⟩
            exact ⟨text, htext, file, hfile⟩
          · rintro ⟨text, htext, file, hfile⟩
            exact ⟨file, text, htext, hfile⟩
      | error fault =>
          have hsearched : State.searchDirs ⟨some configuration, some output, []⟩ =
              .error fault := hdirectories
          refine iff_of_false ?_ (by simp [Taken, hdirectories])
          rintro ⟨file, hfile⟩
          cases hname : spec.name <;>
            simp [State.fileOf, State.findLibrary, hname, hsearched] at hfile

/-- Taking an input is faulty exactly for a library with a blank among its name and directories. -/
theorem fileOf_fault_iff :
    State.fileOf host staticOnly ⟨some configuration, some output, []⟩ item =
        .error (.fault fault) ↔
      fault = .blank .inspected ∧ ∃ spec, item = .namespec spec ∧
        (spec.name = .blank ∨ .blank ∈ configuration.searchDirs) := by
  cases item with
  | object object =>
      refine iff_of_false (fun h => ?_) (by simp)
      exact absurd (map_eq_error_iff.mp h) (checkObject_ne_fault host _ fault)
  | namespec spec =>
      simp only [Item.namespec.injEq, exists_eq_left', State.fileOf, State.findLibrary]
      cases spec.name with
      | blank => simp [eq_comm]
      | text name =>
          cases hdirectories : searchDirsOf configuration with
          | ok directories =>
              have hsearched : State.searchDirs ⟨some configuration, some output, []⟩ =
                  .ok directories := hdirectories
              have hnone : .blank ∉ configuration.searchDirs := fun hblank => absurd
                (hdirectories.symm.trans (searchDirsOf_eq_error_iff.mpr ⟨rfl, hblank⟩)) (by simp)
              rw [hsearched]
              simp only [hnone]
              split <;> simp_all
          | error cause =>
              have hsearched : State.searchDirs ⟨some configuration, some output, []⟩ =
                  .error cause := hdirectories
              obtain ⟨rfl, hblank⟩ := searchDirsOf_eq_error_iff.mp hdirectories
              simp [hsearched, hblank, eq_comm]

/-! ## Preparations -/

/-- Without a blank portable symbol, a preparation comes down to the output and the inputs. -/
theorem preparation_eq (hportables : .blank ∉ configuration.portables) :
    preparation host staticOnly configuration output items =
      match checkOutput host output with
      | .error failure => .error ((Stage.output output).failure failure)
      | .ok () => State.filesOf host staticOnly ⟨some configuration, some output, []⟩ items := by
  have hconfigured := result_configure hportables State.new
  cases hcheck : checkOutput host output <;> simp only [preparation, hconfigured, hcheck]

/-- A preparation is made exactly if no portable symbol is blank, the output is ready, and all
inputs are taken. -/
theorem exists_preparation_iff :
    (∃ files, preparation host staticOnly configuration output items = .ok files) ↔
      .blank ∉ configuration.portables ∧ OutputReady host output ∧
        ∀ item ∈ items, Taken host staticOnly configuration item := by
  by_cases hportables : .blank ∈ configuration.portables
  · simp [preparation, result_configure_blank hportables, hportables]
  · rw [preparation_eq hportables, ← checkOutput_eq_ok_iff]
    cases hcheck : checkOutput host output with
    | error cause => simp
    | ok =>
        simp only [hportables, not_false_eq_true, true_and]
        constructor
        · rintro ⟨files, hfiles⟩ item hmem
          exact exists_fileOf_iff.mp (exists_fileOf_of_mem hfiles hmem)
        · intro htaken
          cases hfiles : State.filesOf host staticOnly ⟨some configuration, some output, []⟩
            items with
          | ok files => exact ⟨files, rfl⟩
          | error failure =>
              obtain ⟨_, item, _, cause, rfl, -, hfailed, -⟩ := filesOf_eq_error_iff.mp hfiles
              obtain ⟨file, hfile⟩ := exists_fileOf_iff.mpr (htaken item (by simp))
              exact absurd (hfailed.symm.trans hfile) (by simp)

/-- Without a blank portable symbol, a preparation has the faults of its output and of its first
input that is not taken. -/
theorem preparation_fault_iff (hportables : .blank ∉ configuration.portables) :
    preparation host staticOnly configuration output items = .error (.fault fault) ↔
      fault = .directoryGone ∧ host.absolute? output = none ∨
      OutputReady host output ∧ fault = .blank .inspected ∧ ∃ earlier spec later,
        items = earlier ++ .namespec spec :: later ∧
        (∀ other ∈ earlier, Taken host staticOnly configuration other) ∧
        (spec.name = .blank ∨ .blank ∈ configuration.searchDirs) := by
  rw [preparation_eq hportables]
  cases hcheck : checkOutput host output with
  | error cause =>
      have hnot : ¬ OutputReady host output := fun hready => absurd
        (hcheck.symm.trans (checkOutput_eq_ok_iff.mpr hready)) (by simp)
      have hfault : cause = .fault fault ↔
          fault = .directoryGone ∧ host.absolute? output = none := by
        rw [← checkOutput_fault_iff, hcheck, Except.error.injEq]
      simp only [hnot, false_and, or_false, ← hfault]
      cases cause <;> simp [Stage.failure]
  | ok =>
      have hready := checkOutput_eq_ok_iff.mp hcheck
      have hsome : host.absolute? output ≠ none := by
        obtain ⟨absolute, habsolute, -⟩ := hready
        simp [habsolute]
      simp only [hready, hsome, and_false, false_or, true_and, filesOf_eq_error_iff,
        exists_fileOf_iff]
      constructor
      · rintro ⟨earlier, item, later, cause, hitems, hearlier, hitem, hfailure⟩
        cases cause with
        | refused detail => exact absurd hfailure (by simp [Stage.failure])
        | fault other =>
            obtain rfl := Failure.fault.inj hfailure
            obtain ⟨rfl, spec, rfl, hblank⟩ := fileOf_fault_iff.mp hitem
            exact ⟨rfl, earlier, spec, later, hitems, hearlier, hblank⟩
      · rintro ⟨rfl, earlier, spec, later, hitems, hearlier, hblank⟩
        exact ⟨earlier, .namespec spec, later, _, hitems, hearlier,
          fileOf_fault_iff.mpr ⟨rfl, spec, rfl, hblank⟩, rfl⟩

/-- An output that is not ready is what the preparation fails at. -/
theorem preparation_of_output (hportables : .blank ∉ configuration.portables)
    (hdirectory : host.workingDirectory ≠ none) (houtput : ¬ OutputReady host output) :
    ∃ detail, preparation host staticOnly configuration output items =
      .error (.driver (.outputRefused output detail)) := by
  obtain ⟨detail, hcheck⟩ := checkOutput_refused hdirectory houtput
  rw [preparation_eq hportables, hcheck]
  exact ⟨detail, rfl⟩

/-! ## Preparations without a blank -/

/-- `Textual configuration directories items` says no blank stands where the engine needs a text,
and the configuration is searched in these directories. -/
structure Textual (configuration : Configuration) (directories : List String)
    (items : List Item) : Prop where
  portables : .blank ∉ configuration.portables
  searched : searchDirsOf configuration = .ok directories
  names : ∀ spec, .namespec spec ∈ items → spec.name ≠ .blank

theorem Textual.searchDirs_ne_blank (h : Textual configuration directories items) :
    .blank ∉ configuration.searchDirs := by
  intro hblank
  have hfault := searchDirsOf_eq_error_iff.mpr ⟨rfl, hblank⟩
  exact absurd (h.searched.symm.trans hfault) (by simp)

/-- Without a blank, exactly the inputs that are ready are taken. -/
theorem Textual.taken_iff (h : Textual configuration directories items) :
    Taken host staticOnly configuration item ↔ InputReady host staticOnly directories item := by
  cases item with
  | object object => rfl
  | namespec spec => simp [Taken, h.searched]

/-- Without a blank, a preparation is made exactly if all is ready. -/
theorem Textual.exists_preparation_iff_ready (h : Textual configuration directories items) :
    (∃ files, preparation host staticOnly configuration output items = .ok files) ↔
      Ready host staticOnly directories output items := by
  simp only [exists_preparation_iff, h.portables, not_false_eq_true, true_and, h.taken_iff, Ready]

/-- Without a blank, the first input that is not ready is refused. -/
theorem Textual.preparation_of_input (h : Textual configuration directories items)
    (houtput : OutputReady host output)
    (hinputs : ¬ ∀ item ∈ items, InputReady host staticOnly directories item) :
    ∃ earlier item later detail, items = earlier ++ item :: later ∧
      (∀ other ∈ earlier, InputReady host staticOnly directories other) ∧
      ¬ InputReady host staticOnly directories item ∧
      preparation host staticOnly configuration output items =
        .error (.driver (.inputRefused item detail)) := by
  have hnone : ¬ ∃ files, preparation host staticOnly configuration output items = .ok files :=
    fun hfiles => hinputs (h.exists_preparation_iff_ready.mp hfiles).2
  rw [preparation_eq h.portables, checkOutput_eq_ok_iff.mpr houtput] at hnone ⊢
  cases hfiles : State.filesOf host staticOnly ⟨some configuration, some output, []⟩ items with
  | ok files => exact absurd ⟨files, hfiles⟩ hnone
  | error failure =>
      obtain ⟨earlier, item, later, cause, hitems, hearlier, hfailed, rfl⟩ :=
        filesOf_eq_error_iff.mp hfiles
      simp only [exists_fileOf_iff, h.taken_iff] at hearlier
      have hnot : ¬ InputReady host staticOnly directories item := by
        rw [← h.taken_iff]
        intro htaken
        obtain ⟨file, hfile⟩ := exists_fileOf_iff.mpr htaken
        exact absurd (hfailed.symm.trans hfile) (by simp)
      cases cause with
      | refused detail => exact ⟨earlier, item, later, detail, hitems, hearlier, hnot, rfl⟩
      | fault fault =>
          obtain ⟨-, spec, rfl, hblank⟩ := fileOf_fault_iff.mp hfailed
          exact absurd hblank (not_or.mpr ⟨h.names spec (by simp [hitems]), h.searchDirs_ne_blank⟩)

end LinkDriver.Gnu
