import LinkDriver.Proofs.CommandLine.ScannedInputs
import LinkDriver.Proofs.Engine.IssuedCommand
import LinkDriver.Proofs.Session

/-!
# The files that reach the linker

Every input that a command line names reaches the linker as the path of a file, which stands bare
among the arguments of the command. Read `passed_files_undashed_iff` first: such a path reads like
an option exactly for an object file that is named so, and for a library that is found in a
directory, or under a name, that begins with a hyphen.
-/

namespace LinkDriver

open LinkDriver.Action CommandLine

variable {host : HostView} {staticOnly : Bool} {directories : List String}

/-! ## Paths that read like options -/

namespace Gnu

/-- The search directory and the name at which a library is found. -/
def foundAt? (host : HostView) (directories names : List String) : Option (String × String) :=
  (directories.flatMap fun directory => names.map fun name => (directory, name)).find?
    fun place => host.isFile (Path.join place.1 place.2)

/-- A library is looked up where it is found. -/
theorem lookUp?_eq (host : HostView) (directories names : List String) :
    lookUp? host directories names =
      (foundAt? host directories names).map fun place => Path.join place.1 place.2 := by
  have hcandidates : candidates directories names =
      (directories.flatMap fun directory => names.map fun name => (directory, name)).map
        fun place => Path.join place.1 place.2 := by
    simp [candidates, List.map_flatMap, Function.comp_def]
  unfold lookUp? foundAt?
  rw [hcandidates, List.find?_map]
  rfl

/-- The library is found at a path that begins with a hyphen: a relative name in a directory that
begins with one, or a name that begins with one in the directory without a name. -/
def FoundDashed (host : HostView) (staticOnly : Bool) (directories : List String)
    (library : Value) : Prop :=
  ∃ text directory name, library = .text text ∧
    foundAt? host directories (libraryNames staticOnly text) = some (directory, name) ∧
      (Path.isAbsolute name = false ∧ isDashed directory = true ∨
        directory = "" ∧ isDashed name = true)

/-- The input reaches the linker at a path that begins with a hyphen. -/
def ReadsAsOption (host : HostView) (staticOnly : Bool) (directories : List String) : Item → Prop
  | .object object => isDashed object.path = true
  | .namespec spec => FoundDashed host staticOnly directories spec.name

/-- A file that stands for an input begins with a hyphen exactly if the input reads as an option. -/
theorem Carries.isDashed_iff {item : Item} {file : String}
    (h : Carries host staticOnly directories item file) :
    isDashed file = true ↔ ReadsAsOption host staticOnly directories item := by
  cases item with
  | object object =>
      obtain rfl : file = object.path := h
      rfl
  | namespec spec =>
      obtain ⟨text, htext, hfound⟩ := h
      rw [lookUp?_eq, Option.map_eq_some_iff] at hfound
      obtain ⟨⟨directory, name⟩, hplace, rfl⟩ := hfound
      rw [Path.isDashed_join_iff]
      constructor
      · intro hdashed
        exact ⟨text, directory, name, htext, hplace, hdashed⟩
      · rintro ⟨other, first, last, hother, hlast, hdashed⟩
        obtain rfl : text = other := Value.text.inj (htext.symm.trans hother)
        obtain ⟨rfl, rfl⟩ := Prod.mk.inj (Option.some.inj (hplace.symm.trans hlast))
        exact hdashed

/-- No file begins with a hyphen exactly if no input that it stands for reads as an option. -/
theorem forall_undashed_iff {items : List Item} {files : List String}
    (h : List.Forall₂ (Carries host staticOnly directories) items files) :
    (∀ file ∈ files, isDashed file = false) ↔
      ∀ item ∈ items, ¬ ReadsAsOption host staticOnly directories item := by
  induction h with
  | nil => simp
  | cons hfirst hrest ih =>
      rw [List.forall_mem_cons, List.forall_mem_cons, ih, ← hfirst.isDashed_iff, Bool.not_eq_true]

end Gnu

/-! ## The inputs of a command line -/

/-- `Passed host arguments event items directories files` says the event is a command that links a
file for each of the items, and that the items are all inputs that the arguments name. -/
structure Passed (host : HostView) (arguments : Arguments) (event : Event) (items : List Item)
    (directories files : List String) : Prop where
  /-- Every object file and every library of the arguments is an item, once. -/
  named : ∃ (objects : List ObjectFile) (namespecs : List NameSpec),
    objects.map ObjectFile.path = arguments.objects ∧
    namespecs.map NameSpec.name = arguments.libraries ∧
    items.Perm (objects.map .object ++ namespecs.map .namespec)
  /-- The directories are those of the arguments and the system's, as the linker sees them. -/
  searched : ∃ texts, texts? (arguments.searchDirs ++ Configuration.systemSearchDirs) =
      some texts ∧
    directories = Gnu.locateAll (given? (arguments.sysroot.map Value.textOrEmpty)) texts
  /-- One file stands for each item. -/
  carried : List.Forall₂ (Gnu.Carries host arguments.static directories) items files
  /-- The command has the files bare, between what the configuration asks for and the output. -/
  issued : ∃ configuration output command,
    event = Gnu.issue (Session.settings arguments) command ∧
      command = Gnu.compose arguments.linker configuration directories files output ∧
      Gnu.Links command files output

variable {arguments : Arguments} {commandLine : List String} {ran : Gnu.LinkerRun} {event : Event}

/-- No file begins with a hyphen exactly if no object file does by its name, and no library is found
at a path that does. -/
theorem Passed.undashed_iff {items : List Item} {files : List String}
    (h : Passed host arguments event items directories files) :
    (∀ file ∈ files, isDashed file = false) ↔
      (∀ path ∈ arguments.objects, isDashed path = false) ∧
        ∀ library ∈ arguments.libraries,
          ¬ Gnu.FoundDashed host arguments.static directories library := by
  obtain ⟨objects, namespecs, hobjects, hnamespecs, hperm⟩ := h.named
  have hitems : (∀ item ∈ items, ¬ Gnu.ReadsAsOption host arguments.static directories item) ↔
      ∀ item ∈ objects.map .object ++ namespecs.map .namespec,
        ¬ Gnu.ReadsAsOption host arguments.static directories item := by
    simp only [hperm.mem_iff]
  rw [Gnu.forall_undashed_iff h.carried, hitems, ← hobjects, ← hnamespecs]
  simp only [List.forall_mem_append, List.forall_mem_map, Gnu.ReadsAsOption, Bool.not_eq_true]

/-- A text that is absent counts as empty. -/
theorem given?_getD (text : Option String) : given? (some (text.getD "")) = given? text := by
  cases text <;> rfl

/-- The search directories of the options to which arguments are resolved. -/
theorem searchDirsOf_resolved {objects : List ObjectFile} {namespecs : List NameSpec}
    {output : String} {configuration : Configuration}
    (h : (linkOptions arguments objects namespecs).configuration? output = some configuration)
    (hdirectories : Gnu.searchDirsOf configuration = .ok directories) :
    ∃ texts, texts? (arguments.searchDirs ++ Configuration.systemSearchDirs) = some texts ∧
      directories = Gnu.locateAll (given? (arguments.sysroot.map Value.textOrEmpty)) texts := by
  have hsearched : configuration.searchDirs =
      arguments.searchDirs ++ Configuration.systemSearchDirs := by
    obtain rfl := Option.some.inj h
    rfl
  have hsysroot : configuration.sysroot = given? (arguments.sysroot.map Value.textOrEmpty) := by
    obtain rfl := Option.some.inj h
    exact given?_getD _
  unfold Gnu.searchDirsOf at hdirectories
  rw [hsearched, hsysroot] at hdirectories
  split at hdirectories
  · rename_i texts htexts
    exact ⟨texts, htexts, (Except.ok.inj hdirectories).symm⟩
  · exact absurd hdirectories (by simp)

/-- What a session lets others see of its link, apart from notes, is a command that links a file for
every input. -/
theorem exists_passed
    (hmem : event ∈ ((Session.body host (Gnu.engine (Session.settings arguments) host ran) arguments
      commandLine).run Gnu.State.new).events) (hevent : ¬ IsNote event) :
    ∃ items directories files, Passed host arguments event items directories files := by
  cases hresolve : ((resolve arguments commandLine).run Gnu.State.new).result with
  | error failure =>
      have hnone := (Session.notedBefore_body_of_unresolved hresolve).mem_events hmem hevent
      exact absurd hnone (by simp)
  | ok options =>
      have hattempt := (Session.notedBefore_body hresolve).mem_events hmem hevent
      obtain ⟨objects, namespecs, hobjects, hnamespecs, hpaths, hnames⟩ :=
        inputs_of_resolve hresolve
      have hplanned : PlannedWhole objects namespecs := by
        obtain ⟨others, found, hothers, hfound, hlabelled⟩ := labelled_of_resolve hresolve
        obtain rfl := Option.some.inj (hobjects.symm.trans hothers)
        obtain rfl := Option.some.inj (hnamespecs.symm.trans hfound)
        exact hlabelled.plannedWhole
      by_cases hprepared : ∃ output configuration,
          Prepared host options output configuration namespecs
      · obtain ⟨output, configuration, hprepared⟩ := hprepared
        have hinvoke := (attempt_of_prepared hprepared _ _).mem_events hattempt hevent
        rw [hobjects] at hinvoke
        obtain ⟨directories, files, hdirectories, hfiles, hissued⟩ :=
          Gnu.issued_of_invoke hinvoke hevent
        have hconfigured := hprepared.configured
        obtain ⟨-, -, rfl⟩ := resolve_eq_ok_iff.mp hresolve
        exact ⟨plan objects namespecs, directories, files,
          ⟨objects, namespecs, hpaths, hnames, hplanned.perm⟩,
          searchDirsOf_resolved hconfigured hdirectories, hfiles, configuration, output, _, hissued,
          rfl, Gnu.links_compose _⟩
      · obtain ⟨error, hnoted⟩ := attempt_of_unprepared hnamespecs hprepared _ _
        exact absurd (hnoted.mem_events hattempt hevent) (by simp)

/-- Whatever a session starts or prints is a command that links one file for every input of the
command line. No such file begins with a hyphen exactly if no operand does, no argument behind the
end of the options does, and no library is found at a path that does. -/
theorem passed_files_undashed_iff {host : Host}
    (hparse : (parse host commandLine).result = .ok arguments)
    (hmem : event ∈ ((Session.body (parse host commandLine).host
      (Gnu.engine (Session.settings arguments) (parse host commandLine).host ran) arguments
        commandLine).run Gnu.State.new).events) (hevent : ¬ IsNote event) :
    ∃ items directories files,
      Passed (parse host commandLine).host arguments event items directories files ∧
      ((∀ file ∈ files, isDashed file = false) ↔
        (∀ path ∈ (readingOf commandLine).operands, isDashed path = false) ∧
        (∀ path ∈ behindEnd commandLine, isDashed path = false) ∧
        ∀ library ∈ (readingOf commandLine).libraries,
          ¬ Gnu.FoundDashed (parse host commandLine).host arguments.static directories
            library.value) := by
  have haccepted := parse_eq_ok_iff.mp hparse
  obtain ⟨items, directories, files, hpassed⟩ := exists_passed hmem hevent
  refine ⟨items, directories, files, hpassed, ?_⟩
  rw [hpassed.undashed_iff, haccepted.objects, haccepted.libraries_eq, List.forall_mem_append,
    List.forall_mem_map, and_assoc]

/-- An object file and a library that is found in a directory of the system reach the linker as
files. -/
theorem passed_files_undashed_in_system_directory :
    let host := ((Host.new (some "/work")).withFile ["work", "a.o"]).withFile ["lib", "libm.so"]
    let commandLine := ["-o", "out", "a.o", "-lm"]
    let event := Event.start
      ⟨.text "ld", ["-L/lib", "-L/usr/lib", "a.o", "/lib/libm.so", "-o", "out"]⟩
    ∃ arguments, (parse host commandLine).result = .ok arguments ∧
      event ∈ ((Session.body (parse host commandLine).host (Gnu.engine (Session.settings arguments)
        (parse host commandLine).host (.finished 0 "" "")) arguments commandLine).run
          Gnu.State.new).events ∧
      ¬ IsNote event ∧
      ∃ items directories files, Passed (parse host commandLine).host arguments event items
        directories files ∧ ∀ file ∈ files, isDashed file = false := by
  intro host commandLine event
  obtain ⟨arguments, hparse, hstatic, hsearchDirs, hsysroot, hmem⟩ : ∃ arguments,
      (parse host commandLine).result = .ok arguments ∧ arguments.static = false ∧
      arguments.searchDirs = [] ∧ arguments.sysroot = none ∧
      event ∈ ((Session.body (parse host commandLine).host (Gnu.engine (Session.settings arguments)
        (parse host commandLine).host (.finished 0 "" "")) arguments commandLine).run
          Gnu.State.new).events := ⟨_, rfl, rfl, rfl, rfl, by decide +kernel⟩
  have hevent : ¬ IsNote event := fun hnote => hnote
  obtain ⟨items, directories, files, hpassed, hiff⟩ := passed_files_undashed_iff hparse hmem hevent
  refine ⟨arguments, hparse, hmem, hevent, items, directories, files, hpassed, hiff.mpr ?_⟩
  obtain ⟨texts, htexts, hdirectories⟩ := hpassed.searched
  obtain rfl : directories = ["/lib", "/usr/lib"] := by
    rw [hsearchDirs] at htexts
    obtain rfl : ["/lib", "/usr/lib"] = texts := Option.some.inj htexts
    rw [hdirectories, hsysroot]
    decide
  refine ⟨by decide +kernel, by decide +kernel, ?_⟩
  have hlibraries : (readingOf commandLine).libraries.map Occurrence.value = [.text "m"] := by
    decide +kernel
  intro library hlibrary hdashed
  have hvalue : library.value ∈ (readingOf commandLine).libraries.map Occurrence.value :=
    List.mem_map_of_mem hlibrary
  rw [hlibraries, List.mem_singleton] at hvalue
  obtain ⟨text, directory, name, htext, hfound, hdashed⟩ := hdashed
  obtain rfl : text = "m" := Value.text.inj (htext.symm.trans hvalue)
  have hplace : Gnu.foundAt? (parse host commandLine).host ["/lib", "/usr/lib"]
      (Gnu.libraryNames false "m") = some ("/lib", "libm.so") := by decide +kernel
  rw [hstatic, hplace] at hfound
  obtain ⟨rfl, rfl⟩ := Prod.mk.inj (Option.some.inj hfound)
  exact absurd hdashed (by decide)

/-- A file behind the end of the options reaches the linker by a name that reads like an option. -/
theorem file_reads_as_option_behind_end :
    let host := (Host.new (some "/work")).withFile ["work", "-weird.o"]
    let session := Session.linkGnu host (.finished 0 "" "") ["-o", "out", "--", "-weird.o"]
    session.ending = .returned ∧
      session.commands = [⟨.text "ld", ["-L/lib", "-L/usr/lib", "-weird.o", "-o", "out"]⟩] ∧
      behindEnd ["-o", "out", "--", "-weird.o"] = ["-weird.o"] ∧ isDashed "-weird.o" = true := by
  refine ⟨?_, ?_, ?_, ?_⟩ <;> decide +kernel

end LinkDriver
