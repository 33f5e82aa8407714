import LinkDriver.Proofs.CommandLine.ScannedInputs
import LinkDriver.Proofs.CommandLine.Texts
import LinkDriver.Proofs.Escape
import LinkDriver.Proofs.Session

/-!
# What leaves a session besides driver errors

A session ends with status 0 or 1 unless a fault leaves it. `Session.Escapes` lists where one comes
from, for every command line that was parsed. Read `only_driver_errors_leave_iff` first. Where no
value is blank and the command has no fault, there is one way left: the output would lie in a working
directory that was removed (`LinkOptions.IsWhole.escapes_iff`).
-/

namespace LinkDriver

open LinkDriver.Action CommandLine

/-! ## Attempts -/

/-- Only the working directory of a host counts for a stranded output. -/
theorem LinkOptions.outputStranded_congr {options : LinkOptions} {host other : HostView}
    (h : host.workingDirectory = other.workingDirectory) :
    options.OutputStranded host ↔ options.OutputStranded other := by
  unfold OutputStranded OutputPath.Stranded
  rw [h]

variable {host : HostView} {options : LinkOptions} {ran : Gnu.LinkerRun} {fault : Fault}

section Attempts

variable {settings : Gnu.Settings}

/-- Whole options and a link without a fault leave one fault, that of a stranded output. -/
theorem LinkOptions.IsWhole.escapes_iff (hwhole : options.IsWhole)
    (hfaultless : Gnu.linkFault? settings ran = none) :
    options.Escapes settings host ran fault ↔
      fault = .directoryGone ∧ options.OutputStranded host := by
  have hescape : ∀ {output configuration namespecs},
      Prepared host options output configuration namespecs →
        (Gnu.Escape settings host ran configuration output
          (plan (options.objects.getD []) namespecs) fault ↔
            fault = .directoryGone ∧ options.OutputStranded host) := by
    intro output configuration namespecs hprepared
    obtain ⟨hportables, hsearchDirs, hnames⟩ := hprepared.textual hwhole
    obtain ⟨directories, hdirectories⟩ := Gnu.searchDirsOf_textual hsearchDirs
    rw [Gnu.Textual.escape_iff ⟨hportables, hdirectories, hnames⟩, hfaultless,
      OutputPath.absolute?_settled hprepared.settled, OutputStranded]
    simp [hprepared.objects_ne_nil]
  constructor
  · rintro ⟨output, configuration, namespecs, hprepared, hfault⟩
    exact (hescape hprepared).mp hfault
  · rintro ⟨rfl, hstranded⟩
    obtain ⟨namespecs, hnamespecs, -⟩ := hwhole.namespecs
    obtain ⟨output, houtput⟩ := hstranded.2.exists_settled
    obtain ⟨configuration, hconfiguration, -⟩ := hwhole.configured output
    have hprepared : Prepared host options output configuration namespecs :=
      ⟨hstranded.1, houtput, hconfiguration, hnamespecs⟩
    exact ⟨output, configuration, namespecs, hprepared, (hescape hprepared).mpr ⟨rfl, hstranded⟩⟩

/-- An attempt with listed options returns the path of the output or ends with a driver error
exactly if no fault leaves it. -/
theorem attempt_ends_iff (hlisted : options.IsListed) :
    ((∃ output, ((attempt host (Gnu.engine settings host ran) options).run .new).result =
            .ok output ∧
          OutputPath.settled? host options.output
            ((options.objects.getD []).map ObjectFile.path) = some output) ∨
        ∃ error, ((attempt host (Gnu.engine settings host ran) options).run .new).result =
          .error (.driver error)) ↔
      ∀ fault, ¬ options.Escapes settings host ran fault := by
  obtain ⟨namespecs, hnamespecs⟩ := hlisted.namespecs
  simp only [← LinkOptions.escapes_iff hlisted]
  cases hresult : ((attempt host (Gnu.engine settings host ran) options).run .new).result with
  | ok output =>
      have hsettled := settled_of_attempt hnamespecs hresult
      exact iff_of_true (Or.inl ⟨output, rfl, hsettled⟩) (by simp)
  | error failure => cases failure <;> simp

end Attempts

/-! ## Sessions -/

namespace Session

variable {σ : Type} {engine : Engine σ} {arguments : Arguments} {commandLine : List String}
  {start : Host}

theorem ending_returned_or_exited_iff {result : Except Failure String} :
    (ending result = .returned ∨ ending result = .exited 1) ↔
      ∀ fault, ending result ≠ .failed (.fault fault) := by
  match result with
  | .ok output => simp [ending]
  | .error (.driver error) => simp [ending]
  | .error (.fault fault) => simp [ending]

theorem ending_failed_iff {result : Except Failure String} :
    ending result = .failed (.fault fault) ↔ result = .error (.fault fault) := by
  match result with
  | .ok output => simp [ending]
  | .error (.driver error) => simp [ending]
  | .error (.fault fault) => simp [ending]

/-- A session with a level ends as its body does. -/
theorem ending_link {parsed : Parsed} {engine : Arguments → Engine σ} {state : σ}
    (hparsed : parsed.result = .ok arguments) (hlog : arguments.log ≠ none) :
    (link parsed engine state commandLine).2.ending =
      ending ((body parsed.host (engine arguments) arguments commandLine).run state).result := by
  obtain ⟨level, hlevel⟩ := Option.ne_none_iff_exists'.mp hlog
  unfold link sinks
  simp only [hparsed, hlevel]
  rfl

/-- A session without a level ends with the fault of it. -/
theorem ending_link_of_blank {parsed : Parsed} {engine : Arguments → Engine σ} {state : σ}
    (hparsed : parsed.result = .ok arguments) (hlog : arguments.log = none) :
    (link parsed engine state commandLine).2.ending = .failed (.fault (.blank .level)) := by
  unfold link sinks
  simp only [hparsed, hlog]
  rfl

/-- The options to which arguments are resolved are listed. -/
theorem isListed_of_resolve {state : σ}
    (h : ((resolve arguments commandLine).run state).result = .ok options) : options.IsListed := by
  obtain ⟨-, -, rfl⟩ := resolve_eq_ok_iff.mp h
  exact ⟨⟨_, rfl⟩, ⟨_, rfl⟩, ⟨_, rfl⟩, ⟨_, rfl⟩⟩

/-- The options to which textual arguments are resolved are whole. -/
theorem isWhole_of_resolve {state : σ} (htextual : arguments.IsTextual)
    (h : ((resolve arguments commandLine).run state).result = .ok options) : options.IsWhole := by
  obtain ⟨-, namespecs, -, hnamespecs, -, hnames⟩ := inputs_of_resolve h
  obtain ⟨-, -, rfl⟩ := resolve_eq_ok_iff.mp h
  refine ⟨⟨namespecs, hnamespecs, ?_⟩, ⟨_, rfl⟩, ⟨_, rfl, htextual.portables⟩,
    ⟨_, rfl, htextual.searchDirs⟩⟩
  intro spec hspec hblank
  refine htextual.libraries ?_
  rw [← hnames, ← hblank]
  exact List.mem_map_of_mem hspec

/-- The scan counts the objects of the arguments, but not their libraries, of which one is blank. -/
structure Miscounted (arguments : Arguments) (commandLine : List String) : Prop where
  objects : (positions .object ownValueFlags commandLine).length = arguments.objects.length
  libraries : (positions .library ownValueFlags commandLine).length ≠ arguments.libraries.length
  blank : .blank ∈ arguments.libraries

/-- Arguments are not resolved because of a fault exactly if they are miscounted: the libraries
cannot be told in the message. -/
theorem resolve_fault_iff {state : σ} :
    ((resolve arguments commandLine).run state).result = .error (.fault fault) ↔
      Miscounted arguments commandLine ∧
        fault = .blank (.joined (arguments.libraries.findIdx (· == .blank))) := by
  rw [resolve_result, map_eq_error_iff]
  unfold placedInputs namespecPositionsUnknown
  simp only
  split
  · rename_i hobjects
    exact iff_of_false (by simp) fun h => hobjects h.1.objects
  · rename_i hobjects
    split
    · rename_i hlibraries
      cases htexts : texts? arguments.libraries with
      | some names =>
          refine iff_of_false (by simp) fun h => ?_
          exact absurd (htexts.symm.trans (texts?_eq_none_iff.mpr h.1.blank)) (by simp)
      | none =>
          have hmiscounted : Miscounted arguments commandLine :=
            ⟨Decidable.not_not.mp hobjects, hlibraries, texts?_eq_none_iff.mp htexts⟩
          simp [hmiscounted, eq_comm]
    · rename_i hlibraries
      exact iff_of_false (by simp) fun h => hlibraries h.1.libraries

/-- `Escapes host ran commandLine arguments fault` says this fault leaves a session whose command
line was parsed into these arguments. -/
inductive Escapes (host : Host) (ran : Gnu.LinkerRun) (commandLine : List String)
    (arguments : Arguments) : Fault → Prop where
  /-- The level was given blank. -/
  | level : arguments.log = none → Escapes host ran commandLine arguments (.blank .level)
  /-- The libraries are miscounted. -/
  | miscounted : arguments.log ≠ none → Miscounted arguments commandLine →
      Escapes host ran commandLine arguments
        (.blank (.joined (arguments.libraries.findIdx (· == .blank))))
  /-- The fault leaves the attempt with the options to which the arguments are resolved. -/
  | attempt {options cause} : arguments.log ≠ none →
      ((resolve arguments commandLine).run Gnu.State.new).result = .ok options →
      options.Escapes (settings arguments) (parse host commandLine).host ran cause →
      Escapes host ran commandLine arguments cause

/-- The faults that leave a session whose command line was parsed. -/
theorem ending_linkGnu_iff (hparse : (parse start commandLine).result = .ok arguments) :
    (linkGnu start ran commandLine).ending = .failed (.fault fault) ↔
      Escapes start ran commandLine arguments fault := by
  unfold linkGnu
  by_cases hlog : arguments.log = none
  · rw [ending_link_of_blank hparse hlog, Ending.failed.injEq, Failure.fault.injEq]
    constructor
    · rintro rfl
      exact .level hlog
    · intro hescapes
      cases hescapes with
      | level => rfl
      | miscounted hlevel | attempt hlevel => exact absurd hlog hlevel
  · rw [ending_link hparse hlog, ending_failed_iff]
    cases hresolve : ((resolve arguments commandLine).run Gnu.State.new).result with
    | error failure =>
        have hfailed : ((body (parse start commandLine).host
            (Gnu.engine (settings arguments) (parse start commandLine).host ran) arguments
              commandLine).run Gnu.State.new).result = .error failure :=
          (notedBefore_body_of_unresolved hresolve).result_eq
        have hfault : failure = .fault fault ↔ Miscounted arguments commandLine ∧
            fault = .blank (.joined (arguments.libraries.findIdx (· == .blank))) := by
          rw [← Except.error.injEq failure, ← hresolve]
          exact resolve_fault_iff
        rw [hfailed, Except.error.injEq, hfault]
        constructor
        · rintro ⟨hmiscounted, rfl⟩
          exact .miscounted hlog hmiscounted
        · intro hescapes
          cases hescapes with
          | level hnone => exact absurd hnone hlog
          | miscounted _ hmiscounted => exact ⟨hmiscounted, rfl⟩
          | attempt _ hresolved => exact absurd (hresolve.symm.trans hresolved) (by simp)
    | ok options =>
        rw [(notedBefore_body hresolve).result_eq,
          LinkOptions.escapes_iff (isListed_of_resolve hresolve)]
        constructor
        · exact .attempt hlog hresolve
        · intro hescapes
          cases hescapes with
          | level hnone => exact absurd hnone hlog
          | miscounted _ hmiscounted =>
              have hfailed := hresolve.symm.trans (resolve_fault_iff.mpr ⟨hmiscounted, rfl⟩)
              exact absurd hfailed (by simp)
          | attempt _ hresolved hfault =>
              obtain rfl := Except.ok.inj (hresolve.symm.trans hresolved)
              exact hfault

/-- A session whose command line was parsed ends with status 0 or 1 exactly if no fault leaves
it. -/
theorem linkGnu_ends_iff (hparse : (parse start commandLine).result = .ok arguments) :
    ((linkGnu start ran commandLine).ending = .returned ∨
        (linkGnu start ran commandLine).ending = .exited 1) ↔
      ∀ fault, ¬ Escapes start ran commandLine arguments fault := by
  simp only [← ending_linkGnu_iff hparse]
  unfold linkGnu
  by_cases hlog : arguments.log = none
  · rw [ending_link_of_blank hparse hlog]
    simp
  · rw [ending_link hparse hlog]
    exact ending_returned_or_exited_iff

/-- Of a textual command line and a link without a fault, one fault can leave a session, that of a
stranded output. -/
theorem escapes_of_textual (hparse : (parse start commandLine).result = .ok arguments)
    (hblank : (readingOf commandLine).NoBlank)
    (hfaultless : Gnu.linkFault? (settings arguments) ran = none) :
    Escapes start ran commandLine arguments fault ↔
      fault = .directoryGone ∧ ∃ options,
        ((resolve arguments commandLine).run Gnu.State.new).result = .ok options ∧
          options.OutputStranded start := by
  have htextual := (parse_eq_ok_iff.mp hparse).isTextual hblank
  have hstranded : ∀ options : LinkOptions,
      options.OutputStranded (parse start commandLine).host ↔ options.OutputStranded start :=
    fun options => LinkOptions.outputStranded_congr (workingDirectory_parse start commandLine)
  constructor
  · intro hescapes
    cases hescapes with
    | level hnone => exact absurd hnone htextual.log
    | miscounted _ hmiscounted => exact absurd hmiscounted.blank htextual.libraries
    | attempt _ hresolve hfault =>
        obtain ⟨rfl, hlost⟩ :=
          ((isWhole_of_resolve htextual hresolve).escapes_iff hfaultless).mp hfault
        exact ⟨rfl, _, hresolve, (hstranded _).mp hlost⟩
  · rintro ⟨rfl, options, hresolve, hlost⟩
    refine .attempt htextual.log hresolve ?_
    exact ((isWhole_of_resolve htextual hresolve).escapes_iff hfaultless).mpr
      ⟨rfl, (hstranded options).mpr hlost⟩

end Session

/-- For every host and whatever becomes of the command, the faults that leave an attempt with listed
options, and those that leave a session whose command line was parsed, are exactly those that
escape; without one, the attempt returns the path of its output or ends with a driver error, and the
session ends with status 0 or 1. Where no value is blank and the command has no fault, only a
stranded output has one: the working directory is gone. -/
theorem only_driver_errors_leave_iff (ran : Gnu.LinkerRun) :
    (∀ (host : HostView) (settings : Gnu.Settings) (options : LinkOptions), options.IsListed →
      let result := ((attempt host (Gnu.engine settings host ran) options).run .new).result
      (((∃ output, result = .ok output ∧ OutputPath.settled? host options.output
            ((options.objects.getD []).map ObjectFile.path) = some output) ∨
          ∃ error, result = .error (.driver error)) ↔
            ∀ fault, ¬ options.Escapes settings host ran fault) ∧
        (∀ fault, result = .error (.fault fault) ↔ options.Escapes settings host ran fault) ∧
        (options.IsWhole → Gnu.linkFault? settings ran = none →
          ∀ fault, options.Escapes settings host ran fault ↔
            fault = .directoryGone ∧ options.OutputStranded host)) ∧
    ∀ (host : Host) (commandLine : List String) (arguments : Arguments),
      (parse host commandLine).result = .ok arguments →
      let ending := (Session.linkGnu host ran commandLine).ending
      ((ending = .returned ∨ ending = .exited 1) ↔
          ∀ fault, ¬ Session.Escapes host ran commandLine arguments fault) ∧
        (∀ fault, ending = .failed (.fault fault) ↔
          Session.Escapes host ran commandLine arguments fault) ∧
        ((readingOf commandLine).NoBlank →
          Gnu.linkFault? (Session.settings arguments) ran = none →
            ∀ fault, Session.Escapes host ran commandLine arguments fault ↔
              fault = .directoryGone ∧ ∃ options,
                ((resolve arguments commandLine).run Gnu.State.new).result = .ok options ∧
                  options.OutputStranded host) := by
  constructor
  · intro host settings options hlisted
    exact ⟨attempt_ends_iff hlisted, fun fault => LinkOptions.escapes_iff hlisted,
      fun hwhole hfaultless fault => hwhole.escapes_iff hfaultless⟩
  · intro host commandLine arguments hparse
    exact ⟨Session.linkGnu_ends_iff hparse, fun fault => Session.ending_linkGnu_iff hparse,
      fun hblank hfaultless fault => Session.escapes_of_textual hparse hblank hfaultless⟩

/-- Where the working directory was removed, absolute paths keep an attempt and a session from any
fault, also if the linker cannot be started. -/
theorem only_driver_errors_leave_absolute_paths :
    let host := Host.new none
    let ran := Gnu.LinkerRun.unstartable "[Errno 2] No such file or directory"
    let settings : Gnu.Settings := ⟨.text "ld", false, false⟩
    let options := linkOptions Arguments.initial [⟨1, "/a.o"⟩] [⟨2, .text "m"⟩]
    let result := ((attempt host.view (Gnu.engine settings host ran) options).run .new).result
    let commandLine := ["-o", "/out", "/a.o", "-lm"]
    options.IsListed ∧ options.IsWhole ∧ Gnu.linkFault? settings ran = none ∧
      ¬ options.OutputStranded host ∧
      ((∃ output, result = .ok output ∧ OutputPath.settled? host options.output
          ((options.objects.getD []).map ObjectFile.path) = some output) ∨
        ∃ error, result = .error (.driver error)) ∧
      (∃ arguments, (parse host commandLine).result = .ok arguments ∧
        Gnu.linkFault? (Session.settings arguments) ran = none) ∧
      (readingOf commandLine).NoBlank ∧
      ((Session.linkGnu host ran commandLine).ending = .returned ∨
        (Session.linkGnu host ran commandLine).ending = .exited 1) := by
  intro host ran settings options result commandLine
  obtain ⟨hattempts, hsessions⟩ := only_driver_errors_leave_iff ran
  have hwhole : options.IsWhole :=
    ⟨⟨_, rfl, by simp⟩, ⟨_, rfl⟩, ⟨_, rfl, by simp [Arguments.initial]⟩,
      ⟨_, rfl, by simp [Arguments.initial]⟩⟩
  have hkept : ¬ options.OutputStranded host := by
    rintro ⟨-, hstranded⟩
    exact absurd hstranded (by decide)
  have hblank : (readingOf commandLine).NoBlank := by decide +kernel
  obtain ⟨arguments, found, hparse, hresolve, hfound, hfaultless⟩ : ∃ arguments found,
      (parse host commandLine).result = .ok arguments ∧
        ((resolve arguments commandLine).run Gnu.State.new).result = .ok found ∧
          found.output = some "/out" ∧ Gnu.linkFault? (Session.settings arguments) ran = none :=
    ⟨_, _, rfl, rfl, rfl, rfl⟩
  refine ⟨hwhole.isListed, hwhole, rfl, hkept, ?_, ⟨arguments, hparse, hfaultless⟩, hblank, ?_⟩
  · obtain ⟨hends, -, hescapes⟩ := hattempts host settings options hwhole.isListed
    exact hends.mpr fun fault hfault => hkept ((hescapes hwhole rfl fault).mp hfault).2
  · obtain ⟨hends, -, hescapes⟩ := hsessions host commandLine arguments hparse
    refine hends.mpr fun fault hfault => ?_
    obtain ⟨-, other, hother, -, -, hrelative⟩ := (hescapes hblank hfaultless fault).mp hfault
    obtain rfl : found = other := Except.ok.inj (hresolve.symm.trans hother)
    have hgiven : given? (some "/out") = some "/out" := by decide
    rw [hfound, hgiven] at hrelative
    have habsolute : Path.isAbsolute "/out" = true := by decide
    exact absurd (habsolute.symm.trans hrelative) (by simp)

/-- A relative output is lost with the working directory, and not by a driver error. -/
theorem fault_leaves_without_directory :
    (∃ arguments options, (parse ((Host.new none).withFile ["a.o"]) ["-o", "out", "/a.o"]).result =
        .ok arguments ∧
      ((resolve arguments ["-o", "out", "/a.o"]).run Gnu.State.new).result = .ok options ∧
      options.objects = some [⟨3, "/a.o"⟩] ∧
      ((attempt ((Host.new none).withFile ["a.o"]) (Gnu.engine (Session.settings arguments)
          ((Host.new none).withFile ["a.o"]) (.finished 0 "" "")) options).run .new).result =
            .error (.fault .directoryGone)) ∧
      (Session.linkGnu ((Host.new none).withFile ["a.o"]) (.finished 0 "" "")
        ["-o", "out", "/a.o"]).ending = .failed (.fault .directoryGone) := by
  refine ⟨⟨_, _, rfl, rfl, rfl, ?_⟩, ?_⟩
  · rfl
  · decide +kernel

end LinkDriver
