import LinkDriver.Proofs.Configuration
import LinkDriver.Proofs.Engine.Gnu

/-!
# The search for a library

A library is looked up in the user's directories and then in those of the system, and in each of
them under its names in turn. Read `library_found_first` first: the file that is found is the first
one in this order, and a library is refused exactly if there is none.

`searchDirsOf_eq` says which directories a configured engine searches. The engine tells the system's
directories by their place at the end of a list, and so also where the user gives one of them.
-/

namespace LinkDriver.Gnu

open LinkDriver.Action

variable {options : LinkOptions} {output : String} {configuration : Configuration} {host : HostView}
  {staticOnly : Bool} {path name : String} {directories names user : List String}

/-! ## Directories -/

/-- A directory that the user gives for the search: one that begins with `=` loses it and lies in
the sysroot, if there is one. -/
def userDirectory (sysroot : Option String) (directory : String) : String :=
  if directory.toList.head? = some '=' then
    sysroot.getD "" ++ String.ofList directory.toList.tail
  else directory

/-- The directories in which libraries are searched: the user's, and then the system's, which lie in
the sysroot, if there is one. -/
def searchOrder (sysroot : Option String) (user : List String) : List String :=
  user.map (userDirectory sysroot) ++ ["/lib", "/usr/lib"].map (sysroot.getD "" ++ ·)

theorem locate_user (sysroot : Option String) (directory : String) :
    locate sysroot false directory = userDirectory sysroot directory := by
  unfold locate userDirectory
  cases directory.toList with
  | nil => rfl
  | cons c rest =>
      by_cases hequals : c = '='
      · subst hequals
        rfl
      · simp [hequals]

/-- A configured engine searches the user's directories and then the system's. -/
theorem searchDirsOf_eq (h : options.Configured output configuration)
    (huser : options.searchDirs = some (user.map .text)) :
    searchDirsOf configuration = .ok (searchOrder configuration.sysroot user) := by
  have htexts : texts? configuration.searchDirs = some (user ++ ["/lib", "/usr/lib"]) := by
    rw [h.searchDirs_eq huser, ← texts?_map_text, List.map_append]
    rfl
  have hcount : userCount (user ++ ["/lib", "/usr/lib"]) = user.length := by
    simp [userCount, Configuration.systemSearchDirs]
  unfold searchDirsOf locateAll searchOrder
  rw [htexts]
  simp only [hcount, List.take_left', List.drop_left', List.map_congr_left fun directory _ =>
    locate_user configuration.sysroot directory]
  rfl

/-! ## Names -/

/-- `Sought staticOnly name names` says a library of this name is looked up under these names. -/
inductive Sought (staticOnly : Bool) : String → List String → Prop where
  | verbatim (file : String) : Sought staticOnly (":" ++ file) [file]
  | archive {name : String} : staticOnly = true → name.toList.head? ≠ some ':' →
      Sought staticOnly name ["lib" ++ name ++ ".a"]
  | library {name : String} : staticOnly = false → name.toList.head? ≠ some ':' →
      Sought staticOnly name ["lib" ++ name ++ ".so", "lib" ++ name ++ ".a"]

theorem libraryNames_verbatim (staticOnly : Bool) (file : String) :
    libraryNames staticOnly (":" ++ file) = [file] := by
  have hcolon : (":" ++ file).toList = ':' :: file.toList := by simp
  unfold libraryNames
  rw [hcolon]
  simp

theorem libraryNames_of_noColon (staticOnly : Bool) (h : name.toList.head? ≠ some ':') :
    libraryNames staticOnly name =
      if staticOnly then ["lib" ++ name ++ ".a"]
      else ["lib" ++ name ++ ".so", "lib" ++ name ++ ".a"] := by
  unfold libraryNames
  split
  · rename_i file hname
    exact absurd (by rw [hname]; rfl) h
  · rfl

/-- Every library is looked up under one list of names. -/
theorem sought_iff : Sought staticOnly name names ↔ names = libraryNames staticOnly name := by
  constructor
  · intro h
    cases h with
    | verbatim file => rw [libraryNames_verbatim]
    | archive hstatic hcolon => rw [libraryNames_of_noColon _ hcolon, if_pos hstatic]
    | library hstatic hcolon => rw [libraryNames_of_noColon _ hcolon, if_neg (by simp [hstatic])]
  · rintro rfl
    by_cases hcolon : name.toList.head? = some ':'
    · obtain ⟨file, hfile⟩ := List.head?_eq_some_iff.mp hcolon
      obtain rfl : name = ":" ++ String.ofList file := by
        rw [← String.toList_inj, hfile]
        simp
      rw [libraryNames_verbatim]
      exact .verbatim _
    · rw [libraryNames_of_noColon _ hcolon]
      cases staticOnly with
      | true => exact .archive rfl hcolon
      | false => exact .library rfl hcolon

/-! ## Lookups -/

/-- `FirstFile host directories names path` says the path joins a directory and a name and is that
of a regular file, which no name in an earlier directory is, nor an earlier name in that
directory. -/
def FirstFile (host : HostView) (directories names : List String) (path : String) : Prop :=
  ∃ earlier directory later sooner name others,
    directories = earlier ++ directory :: later ∧ names = sooner ++ name :: others ∧
    path = Path.join directory name ∧ host.isFile path = true ∧
    (∀ other ∈ earlier, ∀ candidate ∈ names, host.isFile (Path.join other candidate) = false) ∧
    ∀ candidate ∈ sooner, host.isFile (Path.join directory candidate) = false

/-- A name is found in a directory exactly if no earlier one is. -/
theorem find?_map_join_eq_some_iff {directory : String} :
    (names.map (Path.join directory)).find? host.isFile = some path ↔
      ∃ sooner name others, names = sooner ++ name :: others ∧ path = Path.join directory name ∧
        host.isFile path = true ∧
        ∀ candidate ∈ sooner, host.isFile (Path.join directory candidate) = false := by
  rw [List.find?_map, Option.map_eq_some_iff]
  constructor
  · rintro ⟨name, hname, rfl⟩
    obtain ⟨hfile, sooner, others, hnames, hsooner⟩ := List.find?_eq_some_iff_append.mp hname
    exact ⟨sooner, name, others, hnames, rfl, hfile, by simpa using hsooner⟩
  · rintro ⟨sooner, name, others, hnames, rfl, hfile, hsooner⟩
    exact ⟨name, List.find?_eq_some_iff_append.mpr
      ⟨hfile, sooner, others, hnames, by simpa using hsooner⟩, rfl⟩

/-- The file that is looked up is the first one, directories before names. -/
theorem lookUp?_eq_some_iff :
    lookUp? host directories names = some path ↔ FirstFile host directories names path := by
  unfold lookUp? candidates
  rw [List.find?_flatMap, List.findSome?_eq_some_iff]
  constructor
  · rintro ⟨earlier, directory, later, hdirectories, hfound, hearlier⟩
    obtain ⟨sooner, name, others, hnames, hpath, hfile, hsooner⟩ :=
      find?_map_join_eq_some_iff.mp hfound
    exact ⟨earlier, directory, later, sooner, name, others, hdirectories, hnames, hpath, hfile,
      by simpa using hearlier, hsooner⟩
  · rintro ⟨earlier, directory, later, sooner, name, others, hdirectories, hnames, hpath, hfile,
      hearlier, hsooner⟩
    exact ⟨earlier, directory, later, hdirectories, find?_map_join_eq_some_iff.mpr
      ⟨sooner, name, others, hnames, hpath, hfile, hsooner⟩, by simpa using hearlier⟩

theorem lookUp?_eq_none_iff :
    lookUp? host directories names = none ↔
      ∀ directory ∈ directories, ∀ name ∈ names,
        host.isFile (Path.join directory name) = false := by
  simp [lookUp?, candidates]

/-- A library is refused, with its names, exactly if it is looked up in vain. -/
theorem findLibrary_eq_error_iff {state : State} (hdirectories : state.searchDirs = .ok directories)
    {failure : CallFailure} :
    state.findLibrary host staticOnly (.text name) = .error failure ↔
      failure = .refused ("Cannot find " ++ " or ".intercalate (libraryNames staticOnly name)) ∧
        lookUp? host directories (libraryNames staticOnly name) = none := by
  unfold State.findLibrary
  rw [hdirectories]
  cases hfound : lookUp? host directories (libraryNames staticOnly name) with
  | none => simp [hfound, eq_comm]
  | some file => simp [hfound]

/-- Whatever becomes of handing over a configuration, the engine has it afterwards. -/
theorem configuration_of_configure (settings : Settings) (host : HostView) (ran : LinkerRun)
    (configuration : Configuration) (state : State) :
    (((engine settings host ran).perform (.configure configuration)).run state).state.configuration =
      some configuration := by
  obtain ⟨later, hanswer, hnoted⟩ :=
    exists_answer settings host ran (.configure configuration) state
  rw [hnoted.state_eq]
  cases hanswer <;> rfl

/-- An engine that was handed the configuration of options with a list of search directories finds a
library at the first regular file, directories before names, and refuses the library with its names
exactly if there is none. -/
theorem library_found_first (hconfiguration : options.configuration? output = some configuration)
    (huser : options.searchDirs = some (user.map .text)) (settings : Settings) (host : HostView)
    (ran : LinkerRun) (state : State) (name : String) :
    let configured :=
      (((engine settings host ran).perform (.configure configuration)).run state).state
    let directories := searchOrder (given? options.sysroot) user
    ∃ names, Sought settings.staticOnly name names ∧
      (∀ path, configured.findLibrary host settings.staticOnly (.text name) = .ok path ↔
        FirstFile host directories names path) ∧
      ∀ failure, configured.findLibrary host settings.staticOnly (.text name) = .error failure ↔
        failure = .refused ("Cannot find " ++ " or ".intercalate names) ∧
          ∀ directory ∈ directories, ∀ candidate ∈ names,
            host.isFile (Path.join directory candidate) = false := by
  intro configured directories
  have hconfigured := LinkOptions.configured_of_configuration? hconfiguration
  have hdirectories : configured.searchDirs = .ok directories := by
    have hstate : configured.configuration = some configuration :=
      configuration_of_configure settings host ran configuration state
    unfold State.searchDirs
    rw [hstate]
    show searchDirsOf configuration = _
    rw [searchDirsOf_eq hconfigured huser, hconfigured.sysroot]
  refine ⟨libraryNames settings.staticOnly name, sought_iff.mpr rfl, fun path => ?_,
    fun failure => ?_⟩
  · rw [findLibrary_eq_ok_iff hdirectories, ← lookUp?_eq_some_iff]
    simp
  · rw [findLibrary_eq_error_iff hdirectories, lookUp?_eq_none_iff]

/-- An archive in the user's directory in the sysroot is found before a shared library in a
directory of the system. The user's directory with the name of a system directory stays outside the
sysroot. -/
theorem library_found_first_in_sysroot :
    let options : LinkOptions :=
      ⟨some [⟨1, "a.o"⟩], some [⟨2, .text "m"⟩], none, none, some "/sr", none, some [], some [],
        some [.text "/lib", .text "=/opt"], false, true, none⟩
    let host := ((Host.new (some "/work")).withFile ["sr", "opt", "libm.a"]).withFile
      ["sr", "lib", "libm.so"]
    ∃ configuration, options.configuration? "out" = some configuration ∧
      options.searchDirs = some (["/lib", "=/opt"].map .text) ∧
      searchOrder (given? options.sysroot) ["/lib", "=/opt"] =
        ["/lib", "/sr/opt", "/sr/lib", "/sr/usr/lib"] ∧
      let configured := (((engine ⟨.text "ld", false, false⟩ host (.finished 0 "" "")).perform
        (.configure configuration)).run .new).state
      configured.findLibrary host false (.text "m") = .ok "/sr/opt/libm.a" := by
  intro options host
  have huser : options.searchDirs = some (["/lib", "=/opt"].map .text) := rfl
  have horder : searchOrder (given? options.sysroot) ["/lib", "=/opt"] =
      ["/lib", "/sr/opt", "/sr/lib", "/sr/usr/lib"] := by decide
  obtain ⟨configuration, hconfiguration⟩ :
      ∃ configuration, options.configuration? "out" = some configuration := ⟨_, rfl⟩
  refine ⟨configuration, hconfiguration, huser, horder, ?_⟩
  intro configured
  obtain ⟨names, hsought, hfound, -⟩ := library_found_first hconfiguration huser
    ⟨.text "ld", false, false⟩ host (.finished 0 "" "") .new "m"
  obtain rfl : names = ["libm.so", "libm.a"] := sought_iff.mp hsought
  refine (hfound _).mpr ⟨["/lib"], "/sr/opt", ["/sr/lib", "/sr/usr/lib"], ["libm.so"], "libm.a", [],
    horder, rfl, ?_, ?_, ?_, ?_⟩ <;> decide +kernel

end LinkDriver.Gnu
