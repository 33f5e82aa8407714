import LinkDriver.Proofs.Engine.IssuedCommand
import LinkDriver.Proofs.Engine.Readiness
import LinkDriver.Proofs.WholeOptions

/-!
# What leaves a link attempt besides driver errors

A fault is no driver error: it leaves an attempt as it is. `Gnu.Escape` lists where one comes from
once an attempt has settled all it needs: a blank value where the engine needs a text, an output
without an absolute path, or the command itself. Read `LinkOptions.escapes_iff` first; a fault of the
preparation is settled before it (`Gnu.preparation_fault_iff`).
-/

namespace LinkDriver

open LinkDriver.Action

namespace Gnu

variable {settings : Settings} {host : HostView} {ran : LinkerRun} {configuration : Configuration}
  {output : String} {items : List Item} {fault : Fault}

/-- `Escape settings host ran configuration output items fault` says this fault leaves an attempt
that links these items into this output. -/
inductive Escape (settings : Settings) (host : HostView) (ran : LinkerRun)
    (configuration : Configuration) (output : String) (items : List Item) : Fault → Prop where
  /-- A portable symbol is blank. -/
  | portable : .blank ∈ configuration.portables →
      Escape settings host ran configuration output items
        (.blank (.joined (configuration.portables.findIdx (· == .blank))))
  /-- The output has no absolute path. -/
  | stranded : .blank ∉ configuration.portables → host.absolute? output = none →
      Escape settings host ran configuration output items .directoryGone
  /-- The first input that is not taken is a library, and its name or a search directory is
  blank. -/
  | library {earlier spec later} : .blank ∉ configuration.portables → OutputReady host output →
      items = earlier ++ .namespec spec :: later →
      (∀ other ∈ earlier, Taken host settings.staticOnly configuration other) →
      spec.name = .blank ∨ .blank ∈ configuration.searchDirs →
      Escape settings host ran configuration output items (.blank .inspected)
  /-- All inputs are taken, and the command would have a blank search directory. -/
  | directory : .blank ∉ configuration.portables → OutputReady host output →
      (∀ item ∈ items, Taken host settings.staticOnly configuration item) →
      .blank ∈ configuration.searchDirs →
      Escape settings host ran configuration output items (.blank .inspected)
  /-- All inputs are taken, and the command has a fault. -/
  | command {cause} : .blank ∉ configuration.portables → OutputReady host output →
      (∀ item ∈ items, Taken host settings.staticOnly configuration item) →
      .blank ∉ configuration.searchDirs → linkFault? settings ran = some cause →
      Escape settings host ran configuration output items cause

/-! ## Faults of an attempt -/

/-- Where a preparation fails, its fault is the one that escapes. -/
theorem escape_iff_of_failure {failure : Failure}
    (h : preparation host settings.staticOnly configuration output items = .error failure) :
    Escape settings host ran configuration output items fault ↔ failure = .fault fault := by
  have hnone : ¬ ∃ files, preparation host settings.staticOnly configuration output items =
      .ok files := by simp [h]
  rw [exists_preparation_iff] at hnone
  by_cases hportables : .blank ∈ configuration.portables
  · have hjoined : failure =
        .fault (.blank (.joined (configuration.portables.findIdx (· == .blank)))) := by
      unfold preparation at h
      rw [result_configure_blank hportables] at h
      exact (Except.error.inj h).symm
    rw [hjoined, Failure.fault.injEq]
    constructor
    · intro hescape
      cases hescape with
      | portable => rfl
      | stranded hnot | library hnot | directory hnot | command hnot =>
          exact absurd hportables hnot
    · rintro rfl
      exact .portable hportables
  · rw [← Except.error.injEq failure, ← h, preparation_fault_iff hportables]
    constructor
    · intro hescape
      cases hescape with
      | portable hblank => exact absurd hblank hportables
      | stranded _ hlost => exact Or.inl ⟨rfl, hlost⟩
      | library _ hready hitems hearlier hblank =>
          exact Or.inr ⟨hready, rfl, _, _, _, hitems, hearlier, hblank⟩
      | directory _ hready htaken => exact absurd ⟨hportables, hready, htaken⟩ hnone
      | command _ hready htaken => exact absurd ⟨hportables, hready, htaken⟩ hnone
    · rintro (⟨rfl, hlost⟩ | ⟨hready, rfl, earlier, spec, later, hitems, hearlier, hblank⟩)
      · exact .stranded hportables hlost
      · exact .library hportables hready hitems hearlier hblank

/-- Where a preparation is made, a blank search directory escapes, or else the fault of the
command. -/
theorem escape_iff_of_files {files : List String}
    (h : preparation host settings.staticOnly configuration output items = .ok files) :
    Escape settings host ran configuration output items fault ↔
      searchDirsOf configuration = .error fault ∨
        .blank ∉ configuration.searchDirs ∧ linkFault? settings ran = some fault := by
  obtain ⟨hportables, hready, htaken⟩ := exists_preparation_iff.mp ⟨files, h⟩
  rw [searchDirsOf_eq_error_iff]
  constructor
  · intro hescape
    cases hescape with
    | portable hblank => exact absurd hblank hportables
    | stranded _ hlost =>
        obtain ⟨absolute, habsolute, -⟩ := hready
        exact absurd (hlost.symm.trans habsolute) (by simp)
    | @library earlier spec later _ _ hitems _ hblank =>
        obtain ⟨directories, hdirectories, name, hname, -⟩ :=
          htaken (.namespec spec) (by simp [hitems])
        rcases hblank with hblank | hblank
        · exact absurd (hblank.symm.trans hname) (by simp)
        · exact absurd (hdirectories.symm.trans (searchDirsOf_eq_error_iff.mpr ⟨rfl, hblank⟩))
            (by simp)
    | directory _ _ _ hblank => exact Or.inl ⟨rfl, hblank⟩
    | command _ _ _ hnone hfault => exact Or.inr ⟨hnone, hfault⟩
  · rintro (⟨rfl, hblank⟩ | ⟨hnone, hfault⟩)
    · exact .directory hportables hready htaken hblank
    · exact .command hportables hready htaken hnone hfault

/-- The faults that leave an attempt that is prepared are those that escape. -/
theorem attempt_fault_iff {options : LinkOptions} {namespecs : List NameSpec}
    (hprepared : Prepared host options output configuration namespecs) :
    ((attempt host (engine settings host ran) options).run .new).result =
        .error (.fault fault) ↔
      Escape settings host ran configuration output (plan (options.objects.getD []) namespecs)
        fault := by
  cases hfiles : preparation host settings.staticOnly configuration output
      (plan (options.objects.getD []) namespecs) with
  | error failure =>
      rw [(attempt_of_failure settings ran hprepared hfiles).2, escape_iff_of_failure hfiles,
        Except.error.injEq]
  | ok files =>
      rw [escape_iff_of_files hfiles]
      cases hdirectories : searchDirsOf configuration with
      | error cause =>
          obtain ⟨rfl, hblank⟩ := searchDirsOf_eq_error_iff.mp hdirectories
          rw [(attempt_of_unknown settings ran hprepared hfiles hdirectories).2]
          simp [hblank]
      | ok directories =>
          have hnone : .blank ∉ configuration.searchDirs := fun hblank => absurd
            (hdirectories.symm.trans (searchDirsOf_eq_error_iff.mpr ⟨rfl, hblank⟩)) (by simp)
          rw [(issued_of_known settings ran hprepared hfiles hdirectories).ends.fault_iff]
          simp [hnone]

/-- Without a blank, what escapes is the fault of an output without an absolute path, or that of the
command of a link for which all is ready. -/
theorem Textual.escape_iff {directories : List String}
    (h : Textual configuration directories items) :
    Escape settings host ran configuration output items fault ↔
      fault = .directoryGone ∧ host.absolute? output = none ∨
        Ready host settings.staticOnly directories output items ∧
          linkFault? settings ran = some fault := by
  have hnone := h.searchDirs_ne_blank
  constructor
  · intro hescape
    cases hescape with
    | portable hblank => exact absurd hblank h.portables
    | stranded _ hlost => exact Or.inl ⟨rfl, hlost⟩
    | @library earlier spec later _ _ hitems _ hblank =>
        exact absurd hblank (not_or.mpr ⟨h.names spec (by simp [hitems]), hnone⟩)
    | directory _ _ _ hblank => exact absurd hblank hnone
    | command _ hready hall _ hfault =>
        exact Or.inr ⟨⟨hready, fun item hmem => h.taken_iff.mp (hall item hmem)⟩, hfault⟩
  · rintro (⟨rfl, hlost⟩ | ⟨⟨hready, hall⟩, hfault⟩)
    · exact .stranded h.portables hlost
    · exact .command h.portables hready (fun item hmem => h.taken_iff.mpr (hall item hmem))
        hnone hfault

end Gnu

/-! ## Faults of options -/

variable {settings : Gnu.Settings} {host : HostView} {ran : Gnu.LinkerRun} {options : LinkOptions}
  {fault : Fault}

/-- This fault leaves an attempt with the options: it settles all it needs, and then the fault
escapes. -/
def LinkOptions.Escapes (options : LinkOptions) (settings : Gnu.Settings) (host : HostView)
    (ran : Gnu.LinkerRun) (fault : Fault) : Prop :=
  ∃ output configuration namespecs, Prepared host options output configuration namespecs ∧
    Gnu.Escape settings host ran configuration output (plan (options.objects.getD []) namespecs)
      fault

/-- The output of a link would lie in a working directory that was removed. -/
def LinkOptions.OutputStranded (options : LinkOptions) (host : HostView) : Prop :=
  options.objects.getD [] ≠ [] ∧
    OutputPath.Stranded host options.output ((options.objects.getD []).map ObjectFile.path)

/-- The faults that leave an attempt with listed options. -/
theorem LinkOptions.escapes_iff (hlisted : options.IsListed) :
    ((attempt host (Gnu.engine settings host ran) options).run .new).result =
        .error (.fault fault) ↔
      options.Escapes settings host ran fault := by
  obtain ⟨namespecs, hnamespecs⟩ := hlisted.namespecs
  by_cases hprepared : ∃ output configuration, Prepared host options output configuration namespecs
  · obtain ⟨output, configuration, hprepared⟩ := hprepared
    rw [Gnu.attempt_fault_iff hprepared]
    constructor
    · intro hescape
      exact ⟨output, configuration, namespecs, hprepared, hescape⟩
    · rintro ⟨path, other, names, hother, hescape⟩
      obtain rfl := Option.some.inj (hprepared.settled.symm.trans hother.settled)
      obtain rfl := Option.some.inj (hprepared.configured.symm.trans hother.configured)
      obtain rfl := Option.some.inj (hprepared.listed.symm.trans hother.listed)
      exact hescape
  · obtain ⟨error, hnoted⟩ :=
      attempt_of_unprepared hnamespecs hprepared (Gnu.engine settings host ran) .new
    rw [hnoted.result_eq]
    refine iff_of_false (by simp) ?_
    rintro ⟨output, configuration, names, hother, -⟩
    obtain rfl := Option.some.inj (hnamespecs.symm.trans hother.listed)
    exact hprepared ⟨output, configuration, hother⟩

end LinkDriver
