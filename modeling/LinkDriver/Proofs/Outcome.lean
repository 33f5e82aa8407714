import LinkDriver.Proofs.Engine.IssuedCommand
import LinkDriver.Proofs.Engine.Readiness
import LinkDriver.Proofs.WholeOptions

/-!
# The outcome of a link attempt

What an attempt ends with is decided by what stands ready on the host, and then by what becomes of
its command. Read `attempt_outcome` first. `LinkOutcome` lists what follows from what, in the order
in which an attempt fails; `LinkOutcome.of_failure` and `LinkOutcome.of_issued` are its two cases.
`fault_leaves_blank_program` is a link whose command the system does not take.
-/

namespace LinkDriver.Gnu

open LinkDriver.Action

variable {settings : Settings} {host : HostView} {ran : LinkerRun} {staticOnly : Bool}
  {configuration : Configuration} {directories : List String} {output : String} {item : Item}
  {items : List Item}

/-- The input is not ready, and no other one that is not stands before it. -/
def FirstUnready (host : HostView) (staticOnly : Bool) (directories : List String)
    (items : List Item) (item : Item) : Prop :=
  item ∈ items ∧ ¬ InputReady host staticOnly directories item ∧
    ∀ other ∈ items, ¬ InputReady host staticOnly directories other →
      item.position ≤ other.position

/-- In a list with ascending positions the first input that is not ready is the one in front of all
others that are not. -/
theorem firstUnready_of_split {earlier later : List Item}
    (hascending : (earlier ++ item :: later).Pairwise fun first second =>
      first.position < second.position)
    (hearlier : ∀ other ∈ earlier, InputReady host staticOnly directories other)
    (hitem : ¬ InputReady host staticOnly directories item) :
    FirstUnready host staticOnly directories (earlier ++ item :: later) item := by
  refine ⟨by simp, hitem, ?_⟩
  intro other hmem hother
  obtain ⟨-, hbehind, -⟩ := List.pairwise_append.mp hascending
  rcases List.mem_append.mp hmem with hmem | hmem
  · exact absurd (hearlier other hmem) hother
  · rcases List.mem_cons.mp hmem with rfl | hmem
    · exact Int.le_refl _
    · have hlt := (List.pairwise_cons.mp hbehind).1 other hmem
      omega

/-- `LinkOutcome settings host ran configuration directories output items outcome` says what an
attempt to link these items into this output ends with, and which command it issues. -/
structure LinkOutcome (settings : Settings) (host : HostView) (ran : LinkerRun)
    (configuration : Configuration) (directories : List String) (output : String)
    (items : List Item) (outcome : Outcome State Failure String) : Prop where
  /-- It returns exactly if all is ready and the link ends well. -/
  returns_iff : (∃ path, outcome.result = .ok path) ↔
    Ready host settings.staticOnly directories output items ∧ EndsWell settings ran
  /-- What it returns is the path of the output. -/
  returned : ∀ path, outcome.result = .ok path → path = output
  /-- An output that is not ready is refused, whatever else is not. -/
  output_refused : ¬ OutputReady host output →
    ∃ detail, outcome.result = .error (.driver (.outputRefused output detail))
  /-- Behind a ready output the first input that is not ready is refused. -/
  input_refused : OutputReady host output →
    (¬ ∀ item ∈ items, InputReady host settings.staticOnly directories item) →
      ∃ item detail, FirstUnready host settings.staticOnly directories items item ∧
        outcome.result = .error (.driver (.inputRefused item detail))
  /-- Where all is ready and the link does not end well, it fails to link and says why, unless the
  command has a fault. -/
  link_failed : Ready host settings.staticOnly directories output items →
    ¬ EndsWell settings ran → linkFault? settings ran = none →
      ∃ detail, detail ≠ "" ∧ outcome.result = .error (.driver (.linkFailed detail))
  /-- A fault leaves it exactly if all is ready and it is that of the command. -/
  fault_iff : ∀ fault, outcome.result = .error (.fault fault) ↔
    Ready host settings.staticOnly directories output items ∧ linkFault? settings ran = some fault
  /-- Where all is ready, one command is issued, unless the system does not take it. It links a file
  for each item in their order. If this can become of it, it has no fault exactly in a dry run, or
  if the system takes such commands and the linker's output can be decoded. -/
  issued : Ready host settings.staticOnly directories output items →
    ∃ files command, List.Forall₂ (Carries host settings.staticOnly directories) items files ∧
      command = compose settings.program configuration directories files output ∧
      command.program = settings.program ∧ Links command files output ∧
      deeds outcome = issues settings ran command ∧
      (ran.Befits command → (linkFault? settings ran = none ↔
        settings.dryRun = true ∨ command.rejection? = none ∧ ran.Decodable))
  /-- Otherwise none is. -/
  not_issued : ¬ Ready host settings.staticOnly directories output items → deeds outcome = []

variable {outcome : Outcome State Failure String}

/-- An attempt that issues the command for ready items has this outcome. -/
theorem LinkOutcome.of_issued {files : List String}
    (hready : Ready host settings.staticOnly directories output items)
    (hfiles : List.Forall₂ (Carries host settings.staticOnly directories) items files)
    (h : Issued settings ran
      (compose settings.program configuration directories files output) output outcome) :
    LinkOutcome settings host ran configuration directories output items outcome where
  returns_iff := by
    simp only [h.ends.ok_iff, hready, true_and, exists_and_left, exists_eq, and_true]
  returned path hpath := (h.ends.ok_iff.mp hpath).2
  output_refused houtput := absurd hready.1 houtput
  input_refused _ hinputs := absurd hready.2 hinputs
  link_failed _ := h.ends.exists_detail
  fault_iff fault := h.ends.fault_iff.trans (and_iff_right hready).symm
  issued _ := ⟨files, _, hfiles, rfl, rfl, links_compose _, h.deeds_eq, linkFault?_eq_none_iff⟩
  not_issued hnot := absurd hready hnot

/-- An attempt that ends with a failure before it links has this outcome, if the failure is the one
for the output or for the first input that is not ready. -/
theorem LinkOutcome.of_failure {failure : Failure}
    (hready : ¬ Ready host settings.staticOnly directories output items)
    (h : deeds outcome = [] ∧ outcome.result = .error failure)
    (houtput : ¬ OutputReady host output →
      ∃ detail, failure = .driver (.outputRefused output detail))
    (hinput : OutputReady host output → ∃ item detail,
      FirstUnready host settings.staticOnly directories items item ∧
        failure = .driver (.inputRefused item detail)) :
    LinkOutcome settings host ran configuration directories output items outcome where
  returns_iff := iff_of_false (by simp [h.2]) (fun hboth => hready hboth.1)
  returned path hpath := absurd (h.2.symm.trans hpath) (by simp)
  output_refused hnot := by
    obtain ⟨detail, rfl⟩ := houtput hnot
    exact ⟨detail, h.2⟩
  input_refused hopen _ := by
    obtain ⟨item, detail, hfirst, rfl⟩ := hinput hopen
    exact ⟨item, detail, hfirst, h.2⟩
  link_failed hall := absurd hall hready
  fault_iff fault := by
    refine iff_of_false ?_ fun hboth => hready hboth.1
    by_cases hopen : OutputReady host output
    · obtain ⟨item, detail, -, rfl⟩ := hinput hopen
      simp [h.2]
    · obtain ⟨detail, rfl⟩ := houtput hopen
      simp [h.2]
  issued hall := absurd hall hready
  not_issued _ := h.1

/-- The outcome of an attempt that has settled all it needs, on a host with a working directory. -/
theorem linkOutcome_of_prepared {options : LinkOptions} {namespecs : List NameSpec}
    (hprepared : Prepared host options output configuration namespecs)
    (htextual : Textual configuration directories (plan (options.objects.getD []) namespecs))
    (hascending : (plan (options.objects.getD []) namespecs).Pairwise fun first second =>
      first.position < second.position)
    (hdirectory : host.workingDirectory ≠ none) (settings : Settings) (ran : LinkerRun) :
    LinkOutcome settings host ran configuration directories output
      (plan (options.objects.getD []) namespecs)
      ((attempt host (engine settings host ran) options).run .new) := by
  by_cases houtput : OutputReady host output
  · by_cases hinputs : ∀ item ∈ plan (options.objects.getD []) namespecs,
        InputReady host settings.staticOnly directories item
    · obtain ⟨files, hfiles⟩ :=
        htextual.exists_preparation_iff_ready.mpr ⟨houtput, hinputs⟩
      exact .of_issued ⟨houtput, hinputs⟩ (carries_of_preparation htextual.searched hfiles)
        (issued_of_known settings ran hprepared hfiles htextual.searched)
    · obtain ⟨earlier, item, later, detail, hitems, hearlier, hitem, hfailed⟩ :=
        htextual.preparation_of_input houtput hinputs
      refine .of_failure (fun hready => hinputs hready.2)
        (attempt_of_failure settings ran hprepared hfailed) (fun hnot => absurd houtput hnot) ?_
      intro _
      rw [hitems] at hascending ⊢
      exact ⟨item, detail, firstUnready_of_split hascending hearlier hitem, rfl⟩
  · obtain ⟨detail, hfailed⟩ := preparation_of_output htextual.portables hdirectory houtput
    exact .of_failure (fun hready => houtput hready.1)
      (attempt_of_failure settings ran hprepared hfailed) (fun _ => ⟨detail, rfl⟩)
      (fun hopen => absurd hopen houtput)

/-- On a host with a working directory, the outcome of an attempt with whole options and inputs in
the order of their positions is decided by what stands ready and by how the link ends. All inputs
are linked, in ascending order of their positions. -/
theorem attempt_outcome {options : LinkOptions} {objects : List ObjectFile}
    {namespecs : List NameSpec} (hobjects : options.objects = some objects) (hne : objects ≠ [])
    (hnamespecs : options.namespecs = some namespecs) (hpositions : Positioned objects namespecs)
    (hwhole : options.IsWhole) (hdirectory : host.workingDirectory ≠ none) (settings : Settings)
    (ran : LinkerRun) :
    ∃ output configuration directories items,
      OutputPath.settled? host options.output (objects.map ObjectFile.path) = some output ∧
      options.configuration? output = some configuration ∧
      searchDirsOf configuration = .ok directories ∧
      items.Perm (objects.map .object ++ namespecs.map .namespec) ∧
      (items.Pairwise fun first second => first.position < second.position) ∧
      LinkOutcome settings host ran configuration directories output items
        ((attempt host (engine settings host ran) options).run .new) := by
  have hinputs : objects.map ObjectFile.path ≠ [] := by simpa using hne
  have hgetD : options.objects.getD [] = objects := by rw [hobjects]; rfl
  obtain ⟨output, houtput⟩ : ∃ output, OutputPath.settled? host options.output
      (objects.map ObjectFile.path) = some output := OutputPath.exists_settled hinputs hdirectory
  obtain ⟨configuration, hconfiguration, hportables, hsearchDirs⟩ := hwhole.configured output
  obtain ⟨directories, hdirectories⟩ := searchDirsOf_textual hsearchDirs
  have hprepared : Prepared host options output configuration namespecs := by
    refine ⟨?_, ?_, hconfiguration, hnamespecs⟩ <;> rw [hgetD] <;> assumption
  have htextual : Textual configuration directories (plan (options.objects.getD []) namespecs) :=
    ⟨hportables, hdirectories, (hprepared.textual hwhole).2.2⟩
  have hplanned := hpositions.plannedWhole
  have houtcome := linkOutcome_of_prepared hprepared htextual (hgetD ▸ hplanned.ascending)
    hdirectory settings ran
  rw [hgetD] at houtcome
  exact ⟨output, configuration, directories, plan objects namespecs, houtput, hconfiguration,
    hdirectories, hplanned.perm, hplanned.ascending, houtcome⟩

/-- Where all stands ready, the command has one file for each input in the order of the positions, a
library under the path at which it is found. -/
theorem attempt_outcome_library_between :
    let host := (((Host.new (some "/work")).withFile ["work", "a.o"]).withFile
      ["work", "b.o"]).withFile ["lib", "libm.so"]
    let objects : List ObjectFile := [⟨1, "a.o"⟩, ⟨3, "b.o"⟩]
    let namespecs : List NameSpec := [⟨2, .text "m"⟩]
    let options : LinkOptions :=
      ⟨some objects, some namespecs, some "out", none, none, none, some [], some [], some [], false,
        true, none⟩
    let settings : Settings := ⟨.text "ld", false, false⟩
    let ran := LinkerRun.finished 0 "" ""
    let outcome := (attempt host.view (engine settings host ran) options).run .new
    objects ≠ [] ∧ Positioned objects namespecs ∧ options.IsWhole ∧
      host.view.workingDirectory ≠ none ∧ outcome.result = .ok "out" ∧
      deeds outcome = [.start ⟨.text "ld",
        ["-L/lib", "-L/usr/lib", "a.o", "/lib/libm.so", "b.o", "-o", "out"]⟩] ∧
      ∃ output configuration directories items,
        OutputPath.settled? host options.output (objects.map ObjectFile.path) = some output ∧
        options.configuration? output = some configuration ∧
        searchDirsOf configuration = .ok directories ∧
        items.Perm (objects.map .object ++ namespecs.map .namespec) ∧
        (items.Pairwise fun first second => first.position < second.position) ∧
        LinkOutcome settings host ran configuration directories output items outcome := by
  intro host objects namespecs options settings ran outcome
  have hpositions : Positioned objects namespecs :=
    ⟨by decide, by decide, by decide, by decide, by decide⟩
  have hwhole : options.IsWhole :=
    ⟨⟨_, rfl, by decide⟩, ⟨_, rfl⟩, ⟨_, rfl, by decide⟩, ⟨_, rfl, by decide⟩⟩
  have hdirectory : host.view.workingDirectory ≠ none := by decide
  refine ⟨by decide, hpositions, hwhole, hdirectory, by decide +kernel, by decide +kernel, ?_⟩
  exact attempt_outcome rfl (by decide) rfl hpositions hwhole hdirectory settings ran

/-- Of two inputs that are both missing, the library at position 2 is refused and not the object
file at position 3. -/
example :
    let host := (Host.new (some "/work")).withFile ["work", "a.o"]
    let options : LinkOptions :=
      ⟨some [⟨1, "a.o"⟩, ⟨3, "b.o"⟩], some [⟨2, .text "m"⟩], some "out", none, none, none, some [],
        some [], some [], false, true, none⟩
    ((attempt host.view (engine ⟨.text "ld", false, false⟩ host (.finished 0 "" "")) options).run
      .new).result = .error (.driver (.inputRefused (.namespec ⟨2, .text "m"⟩)
        "Cannot find libm.so or libm.a")) := by
  decide +kernel

/-- No system takes a command without a program: all is ready, but the attempt neither returns nor
fails to link. -/
theorem fault_leaves_blank_program :
    let host := (Host.new (some "/work")).withFile ["work", "a.o"]
    let objects : List ObjectFile := [⟨1, "a.o"⟩]
    let options : LinkOptions :=
      ⟨some objects, some [], some "out", none, none, none, some [], some [], some [], false, true,
        none⟩
    let settings : Settings := ⟨.blank, false, false⟩
    let ran := LinkerRun.rejected .blankProgram
    let outcome := (attempt host.view (engine settings host ran) options).run .new
    objects ≠ [] ∧ Positioned objects [] ∧ options.IsWhole ∧ host.view.workingDirectory ≠ none ∧
      Ready host settings.staticOnly ["/lib", "/usr/lib"] "out" (objects.map .object) ∧
      (∀ arguments, ran.Befits ⟨settings.program, arguments⟩) ∧ deeds outcome = [] ∧
      outcome.result = .error (.fault (.rejected .blankProgram)) := by
  intro host objects options settings ran outcome
  have hwhole : options.IsWhole :=
    ⟨⟨_, rfl, by decide⟩, ⟨_, rfl⟩, ⟨_, rfl, by decide⟩, ⟨_, rfl, by decide⟩⟩
  have hready : Ready host settings.staticOnly ["/lib", "/usr/lib"] "out"
      (objects.map .object) := by
    refine ⟨⟨"/work/out", by decide +kernel⟩, ?_⟩
    intro item hitem
    obtain rfl := List.mem_singleton.mp hitem
    exact ⟨by decide +kernel, by decide +kernel⟩
  exact ⟨by decide, ⟨by decide, by decide, by decide, by decide, by decide⟩, hwhole, by decide,
    hready, fun _ => rfl, by decide +kernel, by decide +kernel⟩

end LinkDriver.Gnu
