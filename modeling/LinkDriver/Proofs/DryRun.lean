import LinkDriver.Proofs.Engine.IssuedCommand
import LinkDriver.Proofs.ShellWords

/-!
# Dry runs

A dry run and the real run of one link only part when the command is issued: the one prints what the
other hands to the system. Read `dry_run_faithful` first. Both runs are followed through the
preparation, which knows of neither; `Faithful.of_failure` settles the runs that end before the
command. A dry run does not foresee a fault of the command (`dry_run_hides_faults`).
-/

namespace LinkDriver.Gnu

open LinkDriver.Action

/-- `Runs ran command output real` says how the real run of a link ends that hands this command to
the system, if this becomes of it. -/
structure Runs (ran : LinkerRun) (command : Command) (output : String)
    (real : Outcome State Failure String) : Prop where
  /-- Without a fault the command is started, and nothing else. The run returns the output if the
  linker succeeded, and otherwise fails to link and says why. -/
  faultless : ran.fault? = none → deeds real = [.start command] ∧
    (ran.Succeeded ∧ real.result = .ok output ∨
      ¬ ran.Succeeded ∧ ∃ detail, detail ≠ "" ∧
        real.result = .error (.driver (.linkFailed detail)))
  /-- A fault leaves the run. The command was started if the system took it. -/
  faulty : ∀ fault, ran.fault? = some fault →
    deeds real = (if ran.rejection? = none then [.start command] else []) ∧
      real.result = .error (.fault fault)
  /-- There is no fault exactly if the system takes such commands and the linker's output can be
  decoded. -/
  faultless_iff : ran.Befits command →
    (ran.fault? = none ↔ command.rejection? = none ∧ ran.Decodable)

/-- `Faithful ran dry real` says what the outcome of a dry run tells of the outcome of the real run,
in which this becomes of the command. -/
structure Faithful (ran : LinkerRun) (dry real : Outcome State Failure String) : Prop where
  /-- What fails in the dry run fails in the same way in the real run. Nothing is printed or started
  by either. -/
  failed : ∀ failure, dry.result = .error failure →
    real.result = .error failure ∧ deeds dry = [] ∧ deeds real = []
  /-- A dry run that returns prints one command, quoted so that a shell reads its words, and the real
  run hands that command to the system. -/
  returned : ∀ output, dry.result = .ok output → ∃ command words,
    words = command.program.textOrEmpty :: command.arguments ∧
      deeds dry = [.print (Shell.quoteCommand words ++ "\n")] ∧
      Shell.split (Shell.quoteCommand words) = .ok words ∧
      Runs ran command output real
  /-- A dry run starts no command. -/
  starts_nothing : ∀ command, .start command ∉ dry.events
  /-- A dry run never fails to link. -/
  never_fails_to_link : ∀ error, dry.result = .error (.driver error) →
    error.errorClass ≠ .linkEngine

variable {σ ε α : Type} {ran : LinkerRun} {dry real : Outcome State Failure String}

/-- A command that is started is a deed. -/
theorem start_mem_deeds {outcome : Outcome σ ε α} {command : Command}
    (h : .start command ∈ outcome.events) : .start command ∈ deeds outcome :=
  List.mem_filter.mpr ⟨h, by simp [IsNote]⟩

/-- Two runs that end with one failure before a command is issued are faithful. -/
theorem Faithful.of_failure {failure : Failure}
    (hdry : deeds dry = [] ∧ dry.result = .error failure)
    (hreal : deeds real = [] ∧ real.result = .error failure)
    (hclass : ∀ error, failure = .driver error → error.errorClass ≠ .linkEngine) :
    Faithful ran dry real where
  failed other hother := by
    obtain rfl := Except.error.inj (hdry.2.symm.trans hother)
    exact ⟨hreal.2, hdry.1, hreal.1⟩
  returned output houtput := absurd (hdry.2.symm.trans houtput) (by simp)
  starts_nothing command hmem := by
    have hdeed := start_mem_deeds hmem
    rw [hdry.1] at hdeed
    exact absurd hdeed (by simp)
  never_fails_to_link error herror := hclass error (Except.error.inj (hdry.2.symm.trans herror))

/-- A run that issues its command and is not dry hands it to the system. -/
theorem Runs.of_issued {program : Value} {staticOnly : Bool} {command : Command} {output : String}
    (h : Issued ⟨program, staticOnly, false⟩ ran command output real) :
    Runs ran command output real where
  faultless hnone := by
    constructor
    · rw [h.deeds_eq]
      simp [issues, issue, LinkerRun.rejection?_of_fault?_eq_none hnone]
    · by_cases hran : ran.Succeeded
      · exact Or.inl ⟨hran, h.ends.ok_iff.mpr ⟨Or.inr hran, rfl⟩⟩
      · exact Or.inr ⟨hran, h.ends.exists_detail (by simp [EndsWell, hran])
          (by simp [linkFault?, hnone])⟩
  faulty fault hfault := by
    constructor
    · rw [h.deeds_eq]
      simp [issues, issue]
    · exact h.ends.fault_iff.mpr (by simp [linkFault?, hfault])
  faultless_iff := LinkerRun.Befits.fault?_eq_none_iff

/-- A dry run that issues its command returns the output. -/
theorem result_of_dry {program : Value} {staticOnly : Bool} {unused : LinkerRun}
    {command : Command} {output : String}
    (h : Issued ⟨program, staticOnly, true⟩ unused command output dry) :
    dry.result = .ok output :=
  h.ends.ok_iff.mpr ⟨Or.inl rfl, rfl⟩

/-- Two runs of which one prints what the other hands to the system are faithful. -/
theorem Faithful.of_issued {program : Value} {staticOnly : Bool} {unused : LinkerRun}
    {command : Command} {output : String}
    (hdry : Issued ⟨program, staticOnly, true⟩ unused command output dry)
    (hreal : Issued ⟨program, staticOnly, false⟩ ran command output real) :
    Faithful ran dry real where
  failed failure hfailure := absurd ((result_of_dry hdry).symm.trans hfailure) (by simp)
  returned path hpath := by
    obtain rfl := Except.ok.inj ((result_of_dry hdry).symm.trans hpath)
    exact ⟨command, _, rfl, hdry.deeds_eq, Shell.Reader.finish_read_quoteCommand [] _,
      .of_issued hreal⟩
  starts_nothing other hmem := by
    have hdeed := start_mem_deeds hmem
    rw [hdry.deeds_eq] at hdeed
    exact absurd hdeed (by simp [issues, issue])
  never_fails_to_link error herror := absurd ((result_of_dry hdry).symm.trans herror) (by simp)

/-- The dry run of a link tells what the real run does, whatever the host, the options and the
linker are, and whatever becomes of the command. -/
theorem dry_run_faithful (program : Value) (staticOnly : Bool) (host : HostView)
    (ran unused : LinkerRun) (options : LinkOptions) :
    Faithful ran
      ((attempt host (engine ⟨program, staticOnly, true⟩ host unused) options).run .new)
      ((attempt host (engine ⟨program, staticOnly, false⟩ host ran) options).run .new) := by
  rcases prepared_or_failed State host options with
    ⟨output, configuration, namespecs, hprepared⟩ | ⟨failure, hfailure, hnoted⟩
  · cases hfiles : preparation host staticOnly configuration output
      (plan (options.objects.getD []) namespecs) with
    | error failure =>
        refine .of_failure (attempt_of_failure _ unused hprepared hfiles)
          (attempt_of_failure _ ran hprepared hfiles) ?_
        rintro error rfl
        exact errorClass_of_preparation hfiles
    | ok files =>
        cases hdirectories : searchDirsOf configuration with
        | error fault =>
            exact .of_failure (attempt_of_unknown _ unused hprepared hfiles hdirectories)
              (attempt_of_unknown _ ran hprepared hfiles hdirectories) (by simp)
        | ok directories =>
            exact .of_issued (issued_of_known _ unused hprepared hfiles hdirectories)
              (issued_of_known _ ran hprepared hfiles hdirectories)
  · refine .of_failure ⟨(hnoted _ _).deeds_eq, (hnoted _ _).result_eq⟩
      ⟨(hnoted _ _).deeds_eq, (hnoted _ _).result_eq⟩ ?_
    rintro error rfl
    rcases hfailure with ⟨-, hfault⟩ | ⟨other, hother, hclass⟩
    · exact absurd hfault (by simp)
    · rwa [Failure.driver.inj hother]

/-- A dry run prints a command without a program as if a shell could run it, and knows nothing of
bytes that the linker will write. Of both a fault leaves the real run, which starts nothing in the
first case. -/
theorem dry_run_hides_faults :
    let host := (Host.new (some "/work")).withFile ["a.o"]
    let options : LinkOptions :=
      ⟨some [⟨4, "/a.o"⟩], some [], some "out", none, none, none, some [], some [], some [], false,
        true, none⟩
    let undecodable := "'utf-8' codec can't decode byte 0xe9 in position 0"
    let run := fun program dryRun ran =>
      (attempt host.view (engine ⟨program, false, dryRun⟩ host ran) options).run .new
    let dryBlank := run .blank true (.rejected .blankProgram)
    let realBlank := run .blank false (.rejected .blankProgram)
    let dry := run (.text "ld") true (.started (.undecodable undecodable) [])
    let real := run (.text "ld") false (.started (.undecodable undecodable) [])
    (dryBlank.result = .ok "out" ∧
      deeds dryBlank = [.print "'' -L/lib -L/usr/lib /a.o -o out\n"] ∧
      deeds realBlank = [] ∧ realBlank.result = .error (.fault (.rejected .blankProgram))) ∧
    dry.result = .ok "out" ∧ deeds dry = [.print "ld -L/lib -L/usr/lib /a.o -o out\n"] ∧
      deeds real = [.start ⟨.text "ld", ["-L/lib", "-L/usr/lib", "/a.o", "-o", "out"]⟩] ∧
      real.result = .error (.fault (.undecodable undecodable)) := by
  decide +kernel

end LinkDriver.Gnu
