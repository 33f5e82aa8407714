import LinkDriver.Proofs.Attempt
import LinkDriver.Proofs.Engine.Preparation

/-!
# The command that an engine issues

An engine starts or prints one command, and only when all inputs were taken. Read `issued_of_invoke`
first: the command `Links` one file for each input of the plan. For an attempt, `issued_of_known`
says that it issues this command and ends as the link does, and `attempt_of_failure` that it issues
nothing where the preparation fails.
-/

namespace LinkDriver.Gnu

open LinkDriver.Action

variable {settings : Settings} {host : HostView} {ran : LinkerRun} {state : State}
  {configuration : Configuration} {directories : List String} {output : String}
  {staticOnly : Bool} {item : Item} {items : List Item} {file : String} {files : List String}

/-- What an engine lets others see of a command: in a dry run its words, quoted for a shell, on a
line, and otherwise its start. A blank program is printed as the empty word. -/
def issue (settings : Settings) (command : Command) : Event :=
  if settings.dryRun then
    .print (Shell.quoteCommand (command.program.textOrEmpty :: command.arguments) ++ "\n")
  else .start command

/-- What becomes visible of a command: it is issued, unless it is to be started and the system does
not take it. -/
def issues (settings : Settings) (ran : LinkerRun) (command : Command) : List Event :=
  if settings.dryRun = true ∨ ran.rejection? = none then [issue settings command] else []

/-- The command has the files bare, one behind the other, behind all options and in front of the
output. -/
def Links (command : Command) (files : List String) (output : String) : Prop :=
  ∃ options, command.arguments = options ++ files ++ ["-o", output]

theorem links_compose (program : Value) :
    Links (compose program configuration directories files output) files output :=
  ⟨configurationWords configuration ++ directories.map ("-L" ++ ·),
    List.append_assoc _ ["-o"] [output]⟩

/-! ## The files of the command -/

/-- `Carries host staticOnly directories item file` says the file stands for the input: it is the
object file itself, or the one that is found for the library in the directories. -/
def Carries (host : HostView) (staticOnly : Bool) (directories : List String) : Item → String → Prop
  | .object object, file => file = object.path
  | .namespec spec, file => ∃ name, spec.name = .text name ∧
    lookUp? host directories (libraryNames staticOnly name) = some file

/-- A file that is taken for an input stands for it. -/
theorem carries_of_fileOf (hdirectories : state.searchDirs = .ok directories)
    (h : state.fileOf host staticOnly item = .ok file) :
    Carries host staticOnly directories item file := by
  cases item with
  | object object => exact (fileOf_object_eq_ok_iff.mp h).2.symm
  | namespec spec => exact (findLibrary_eq_ok_iff hdirectories).mp h

/-- The files of a preparation stand for its inputs. -/
theorem carries_of_preparation (hdirectories : searchDirsOf configuration = .ok directories)
    (h : preparation host staticOnly configuration output items = .ok files) :
    List.Forall₂ (Carries host staticOnly directories) items files := by
  have hfiles : State.filesOf host staticOnly ⟨some configuration, some output, []⟩ items =
      .ok files := by
    unfold preparation at h
    split at h
    · exact absurd h (by simp)
    · split at h
      · exact absurd h (by simp)
      · exact h
  have hsearched : State.searchDirs ⟨some configuration, some output, []⟩ = .ok directories :=
    hdirectories
  exact (filesOf_eq_ok_iff.mp hfiles).imp fun item file => carries_of_fileOf hsearched

/-! ## The link -/

/-- Where the search directories are known, a state that is configured and has an output has a
command. -/
theorem command?_of_known (h : searchDirsOf configuration = .ok directories)
    (settings : Settings) (output : String) (files : List String) :
    State.command? settings ⟨some configuration, some output, files⟩ =
      some (.ok (compose settings.program configuration directories files output)) := by
  simp [State.command?, State.draft, h, Except.map, compose]

/-- A link ends well in a dry run, and where the linker does. -/
def EndsWell (settings : Settings) (ran : LinkerRun) : Prop :=
  settings.dryRun = true ∨ ran.Succeeded

/-- The fault with which a link ends, if it does: a dry run has none. -/
def linkFault? (settings : Settings) (ran : LinkerRun) : Option Fault :=
  if settings.dryRun then none else ran.fault?

/-- A link that ends well has no fault. -/
theorem linkFault?_of_endsWell (h : EndsWell settings ran) : linkFault? settings ran = none := by
  unfold linkFault?
  rcases h with hdry | hsucceeded
  · rw [if_pos hdry]
  · rw [LinkerRun.fault?_of_succeeded hsucceeded, ite_self]

/-- If this can become of the command, the link has no fault exactly in a dry run, or if the system
takes such commands and the linker's output can be decoded. -/
theorem linkFault?_eq_none_iff {command : Command} (h : ran.Befits command) :
    linkFault? settings ran = none ↔
      settings.dryRun = true ∨ command.rejection? = none ∧ ran.Decodable := by
  rw [← h.fault?_eq_none_iff, linkFault?]
  split <;> simp_all

/-- A link whose search directories are known issues one command. It ends well, with the fault of
the command, or with a refusal that says why. -/
theorem link_of_known (h : searchDirsOf configuration = .ok directories) (settings : Settings)
    (ran : LinkerRun) (output : String) (files : List String) :
    let outcome := (link settings ran).run ⟨some configuration, some output, files⟩
    deeds outcome =
        issues settings ran (compose settings.program configuration directories files output) ∧
      (outcome.result = .ok () ↔ EndsWell settings ran) ∧
      (∀ fault, outcome.result = .error (.fault fault) ↔ linkFault? settings ran = some fault) ∧
      ∀ detail, outcome.result = .error (.refused detail) → detail ≠ "" := by
  intro outcome
  have hcommand := command?_of_known h settings output files
  cases hdry : settings.dryRun with
  | true =>
      have hprinted := link_printed hcommand hdry ran
      have hresult : outcome.result = .ok () := hprinted.result_eq
      refine ⟨?_, iff_of_true hresult (Or.inl hdry), ?_, ?_⟩
      · rw [hprinted.deeds_eq, issues, if_pos (Or.inl hdry), issue, if_pos hdry]
        rfl
      · intro fault
        simp [hresult, linkFault?, hdry]
      · intro detail hrefused
        exact absurd (hresult.symm.trans hrefused) (by simp)
  | false =>
      have hhanded := link_handed hcommand hdry ran
      have hends := handed_runCommand ran
        (compose settings.program configuration directories files output)
        ⟨some configuration, some output, files⟩
      have hresult : outcome.result = _ := hhanded.result_eq
      refine ⟨?_, ?_, ?_, ?_⟩
      · rw [hhanded.deeds_eq, hends.deeds_eq]
        simp [issues, issue, hdry]
      · rw [hresult, hends.result_eq_ok_iff]
        simp [EndsWell, hdry]
      · intro fault
        rw [hresult, hends.result_eq_fault_iff]
        simp [linkFault?, hdry]
      · intro detail hrefused
        exact hends.detail_ne_empty (hresult.symm.trans hrefused)

/-- A link whose search directories are not known issues nothing, and fails. -/
theorem link_of_unknown {fault : Fault} (h : searchDirsOf configuration = .error fault)
    (settings : Settings) (ran : LinkerRun) (output : String) (files : List String) :
    let outcome := (link settings ran).run ⟨some configuration, some output, files⟩
    deeds outcome = [] ∧ outcome.result = .error (.fault fault) := by
  have hcommand : State.command? settings ⟨some configuration, some output, files⟩ =
      some (.error fault) := by
    simp [State.command?, State.draft, h, Except.map]
  have hfailed : NotedBefore ((link settings ran).run ⟨some configuration, some output, files⟩)
      ⟨[], ⟨some configuration, some output, files⟩, .error (.fault fault)⟩ := by
    unfold link
    refine .bind_ok (.refl _) ?_
    simp only [hcommand]
    exact .bind_error (.refl _)
  exact ⟨hfailed.deeds_eq, hfailed.result_eq⟩

/-- An invocation that is prepared does what its link does. -/
theorem invoke_of_link (settings : Settings) (ran : LinkerRun)
    (h : preparation host settings.staticOnly configuration output items = .ok files) :
    let linked := (link settings ran).run ⟨some configuration, some output, files⟩
    NotedBefore
      ((invoke (engine settings host ran) configuration output (items.map .item)).run .new)
      ⟨linked.events, linked.state, linked.result.mapError (Stage.link output).failure⟩ :=
  (invoke_of_prepared ran h).trans (Stage.notedBefore_perform rfl (.refl _))

/-- What an invocation lets others see, apart from notes, is the command that links one file for
each input of the plan. -/
theorem issued_of_invoke {event : Event}
    (hmem : event ∈ ((invoke (engine settings host ran) configuration output
      (items.map .item)).run State.new).events) (hevent : ¬ IsNote event) :
    ∃ directories files, searchDirsOf configuration = .ok directories ∧
      List.Forall₂ (Carries host settings.staticOnly directories) items files ∧
      event = issue settings
        (compose settings.program configuration directories files output) := by
  cases hfiles : preparation host settings.staticOnly configuration output items with
  | error failure =>
      obtain ⟨final, hnoted⟩ := invoke_of_unprepared ran hfiles
      exact absurd (hnoted.mem_events hmem hevent) (by simp)
  | ok files =>
      have hdeed : event ∈ deeds ((link settings ran).run
          ⟨some configuration, some output, files⟩) :=
        List.mem_filter.mpr ⟨(invoke_of_link settings ran hfiles).mem_events hmem hevent,
          by simpa using hevent⟩
      cases hdirectories : searchDirsOf configuration with
      | error fault =>
          rw [(link_of_unknown hdirectories settings ran output files).1] at hdeed
          exact absurd hdeed (by simp)
      | ok directories =>
          rw [(link_of_known hdirectories settings ran output files).1, issues] at hdeed
          split at hdeed
          · exact ⟨directories, files, rfl, carries_of_preparation hdirectories hfiles,
              List.mem_singleton.mp hdeed⟩
          · exact absurd hdeed (by simp)

/-! ## Attempts -/

section Attempts

variable {options : LinkOptions} {namespecs : List NameSpec}

/-- An attempt that is prepared does what the link does, and returns the output if that ends
well. -/
theorem attempt_of_link (settings : Settings) (ran : LinkerRun)
    (hprepared : Prepared host options output configuration namespecs)
    (h : preparation host settings.staticOnly configuration output
      (plan (options.objects.getD []) namespecs) = .ok files) :
    let linked := (link settings ran).run ⟨some configuration, some output, files⟩
    let outcome := (attempt host (engine settings host ran) options).run .new
    deeds outcome = deeds linked ∧
      outcome.result =
        (linked.result.mapError (Stage.link output).failure).map fun _ => output := by
  intro linked outcome
  have hattempt := attempt_of_prepared hprepared (engine settings host ran) .new
  have hlinked := invoke_of_link settings ran h
  constructor
  · rw [hattempt.deeds_eq]
    exact hlinked.deeds_eq
  · rw [hattempt.result_eq, hlinked.result_eq]

/-- How an attempt with this output ends once all is prepared and its command is known. -/
inductive LinkEnds (settings : Settings) (ran : LinkerRun) (output : String) :
    Except Failure String → Prop where
  | well : EndsWell settings ran → LinkEnds settings ran output (.ok output)
  | faulty {fault} : linkFault? settings ran = some fault →
      LinkEnds settings ran output (.error (.fault fault))
  | refused {detail} : ¬ EndsWell settings ran → linkFault? settings ran = none → detail ≠ "" →
      LinkEnds settings ran output (.error (.driver (.linkFailed detail)))

namespace LinkEnds

variable {result : Except Failure String} (h : LinkEnds settings ran output result)

include h

theorem ok_iff {path : String} : result = .ok path ↔ EndsWell settings ran ∧ path = output := by
  cases h with
  | well hends => simp [hends, eq_comm]
  | faulty hfault =>
      refine iff_of_false (by simp) fun hboth => ?_
      exact absurd (hfault.symm.trans (linkFault?_of_endsWell hboth.1)) (by simp)
  | refused hnot => simp [hnot]

theorem fault_iff {fault : Fault} :
    result = .error (.fault fault) ↔ linkFault? settings ran = some fault := by
  cases h with
  | well hends => simp [linkFault?_of_endsWell hends]
  | faulty hfault => simp [hfault]
  | refused _ hnone => simp [hnone]

theorem exists_detail (hnot : ¬ EndsWell settings ran) (hnone : linkFault? settings ran = none) :
    ∃ detail, detail ≠ "" ∧ result = .error (.driver (.linkFailed detail)) := by
  cases h with
  | well hends => exact absurd hends hnot
  | faulty hfault => exact absurd (hfault.symm.trans hnone) (by simp)
  | refused _ _ hdetail => exact ⟨_, hdetail, rfl⟩

end LinkEnds

/-- `Issued settings ran command output outcome` says an attempt with this output issues the command
and nothing else, and ends as the link does. -/
structure Issued (settings : Settings) (ran : LinkerRun) (command : Command) (output : String)
    (outcome : Outcome State Failure String) : Prop where
  deeds_eq : deeds outcome = issues settings ran command
  ends : LinkEnds settings ran output outcome.result

/-- An attempt that is prepared and knows its search directories issues the command for its
files. -/
theorem issued_of_known (settings : Settings) (ran : LinkerRun)
    (hprepared : Prepared host options output configuration namespecs)
    (h : preparation host settings.staticOnly configuration output
      (plan (options.objects.getD []) namespecs) = .ok files)
    (hdirectories : searchDirsOf configuration = .ok directories) :
    Issued settings ran (compose settings.program configuration directories files output) output
      ((attempt host (engine settings host ran) options).run .new) := by
  obtain ⟨hdeeds, hresult⟩ := attempt_of_link settings ran hprepared h
  obtain ⟨hissued, hends, hfaults, hrefused⟩ :=
    link_of_known hdirectories settings ran output files
  refine ⟨hdeeds.trans hissued, ?_⟩
  rw [hresult]
  cases hlinked : ((link settings ran).run ⟨some configuration, some output, files⟩).result with
  | ok => exact .well (hends.mp hlinked)
  | error failure =>
      rw [hlinked] at hends hfaults
      cases failure with
      | fault fault => exact .faulty ((hfaults fault).mp rfl)
      | refused detail =>
          refine .refused (mt hends.mpr (by simp)) ?_ (hrefused detail hlinked)
          cases hfault : linkFault? settings ran with
          | none => rfl
          | some fault => exact absurd ((hfaults fault).mpr hfault) (by simp)

/-- An attempt that is prepared and does not know its search directories issues nothing. -/
theorem attempt_of_unknown (settings : Settings) (ran : LinkerRun)
    (hprepared : Prepared host options output configuration namespecs)
    (h : preparation host settings.staticOnly configuration output
      (plan (options.objects.getD []) namespecs) = .ok files) {fault : Fault}
    (hdirectories : searchDirsOf configuration = .error fault) :
    let outcome := (attempt host (engine settings host ran) options).run .new
    deeds outcome = [] ∧ outcome.result = .error (.fault fault) := by
  intro outcome
  obtain ⟨hdeeds, hresult⟩ := attempt_of_link settings ran hprepared h
  obtain ⟨hnone, hfault⟩ := link_of_unknown hdirectories settings ran output files
  rw [hfault] at hresult
  exact ⟨hdeeds.trans hnone, hresult⟩

/-- An attempt that is not prepared issues nothing, and ends with the first failure. -/
theorem attempt_of_failure (settings : Settings) (ran : LinkerRun)
    (hprepared : Prepared host options output configuration namespecs) {failure : Failure}
    (h : preparation host settings.staticOnly configuration output
      (plan (options.objects.getD []) namespecs) = .error failure) :
    let outcome := (attempt host (engine settings host ran) options).run .new
    deeds outcome = [] ∧ outcome.result = .error failure := by
  intro outcome
  have hattempt := attempt_of_prepared hprepared (engine settings host ran) .new
  obtain ⟨final, hinvoke⟩ := invoke_of_unprepared ran h
  constructor
  · rw [hattempt.deeds_eq]
    exact hinvoke.deeds_eq
  · rw [hattempt.result_eq, hinvoke.result_eq]
    rfl

end Attempts

end LinkDriver.Gnu
