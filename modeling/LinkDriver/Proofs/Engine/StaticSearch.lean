import LinkDriver.Proofs.Engine.LibrarySearch
import Mathlib.Data.Nat.Find

/-!
# The search for static archives alone

An engine that considers static archives alone looks a library up in the same directories, under
fewer names. Read `FoundIn.exists_sooner` first: under more names a library is found in the same
directory or in an earlier one. `static_resolution_agrees` compares the two engines on one state.
-/

namespace LinkDriver.Gnu

variable {host : HostView} {state : State} {staticOnly : Bool}
  {directories names more : List String}
  {number : Nat} {directory candidate name path : String}

/-! ## Numbered directories -/

/-- `FoundIn host directories names number path` says that the search comes upon the path in the
directory of this number: no earlier directory has a file of these names. -/
structure FoundIn (host : HostView) (directories names : List String) (number : Nat) (path : String) :
    Prop where
  found : ∃ directory, directories[number]? = some directory ∧
    (names.map (Path.join directory)).find? host.isFile = some path
  earlier : ∀ before < number, ∀ directory, directories[before]? = some directory →
    ∀ candidate ∈ names, host.isFile (Path.join directory candidate) = false

/-- What is looked up is found in some directory. -/
theorem lookUp?_eq_some_iff_foundIn :
    lookUp? host directories names = some path ↔
      ∃ number, FoundIn host directories names number path := by
  rw [lookUp?_eq_some_iff]
  constructor
  · rintro ⟨earlier, directory, later, sooner, name, others, hdirectories, hnames, hpath, hfile,
      hearlier, hsooner⟩
    refine ⟨earlier.length, ⟨directory, by simp [hdirectories], ?_⟩, ?_⟩
    · exact find?_map_join_eq_some_iff.mpr ⟨sooner, name, others, hnames, hpath, hfile, hsooner⟩
    · intro before hbefore other hother
      rw [hdirectories, List.getElem?_append_left hbefore] at hother
      exact hearlier other (List.mem_of_getElem? hother)
  · rintro ⟨number, ⟨directory, hdirectory, hfound⟩, hearlier⟩
    obtain ⟨sooner, name, others, hnames, hpath, hfile, hsooner⟩ :=
      find?_map_join_eq_some_iff.mp hfound
    obtain ⟨hnumber, rfl⟩ := List.getElem?_eq_some_iff.mp hdirectory
    refine ⟨directories.take number, directories[number], directories.drop (number + 1), sooner,
      name, others, ?_, hnames, hpath, hfile, ?_, hsooner⟩
    · rw [List.getElem_cons_drop, List.take_append_drop]
    · intro other hother
      obtain ⟨before, hbefore, rfl⟩ := List.mem_take_iff_getElem.mp hother
      exact hearlier before (by omega) _ (List.getElem?_eq_getElem _)

/-- Where a directory has a file of the names, one is found there or in an earlier directory. -/
theorem exists_foundIn_of_isFile (hdirectory : directories[number]? = some directory)
    (hmem : candidate ∈ names) (hfile : host.isFile (Path.join directory candidate) = true) :
    ∃ sooner ≤ number, ∃ path, FoundIn host directories names sooner path := by
  classical
  have hholds : ∃ number directory, directories[number]? = some directory ∧
      ∃ candidate ∈ names, host.isFile (Path.join directory candidate) = true :=
    ⟨number, directory, hdirectory, candidate, hmem, hfile⟩
  -- The search ends in the first directory with a file of the names.
  obtain ⟨first, hfirst, sought, hsought, hthere⟩ := Nat.find_spec hholds
  have hsome : ((names.map (Path.join first)).find? host.isFile).isSome = true :=
    List.find?_isSome.mpr ⟨_, List.mem_map_of_mem hsought, hthere⟩
  obtain ⟨path, hpath⟩ := Option.isSome_iff_exists.mp hsome
  refine ⟨Nat.find hholds, Nat.find_min' hholds ⟨directory, hdirectory, candidate, hmem, hfile⟩,
    path, ⟨first, hfirst, hpath⟩, ?_⟩
  intro before hbefore other hother missing hmissing
  rw [Bool.eq_false_iff]
  intro hearlier
  exact Nat.find_min hholds hbefore ⟨other, hother, missing, hmissing, hearlier⟩

/-- Under more names a library is found in the same directory or in an earlier one. -/
theorem FoundIn.exists_sooner (h : FoundIn host directories names number path)
    (hmore : names ⊆ more) :
    ∃ sooner ≤ number, ∃ other, FoundIn host directories more sooner other := by
  obtain ⟨directory, hdirectory, hfound⟩ := h.found
  obtain ⟨front, name, others, rfl, rfl, hfile, -⟩ := find?_map_join_eq_some_iff.mp hfound
  exact exists_foundIn_of_isFile hdirectory (hmore (by simp)) hfile

/-! ## Static archives -/

/-- The names of static archives are among all names of a library. -/
theorem libraryNames_subset (name : String) : libraryNames true name ⊆ libraryNames false name := by
  have hsought : Sought true name (libraryNames true name) := sought_iff.mpr rfl
  generalize libraryNames true name = names at hsought ⊢
  cases hsought with
  | verbatim file =>
      rw [libraryNames_verbatim]
      exact List.Subset.refl _
  | archive _ hcolon =>
      rw [libraryNames_of_noColon _ hcolon]
      simp
  | library hshared => exact absurd hshared (by simp)

/-- The path of a library ends as its name does. -/
theorem getLast?_join_library (directory name : String) {ending : String} (h : ending ≠ "") :
    (Path.join directory ("lib" ++ name ++ ending)).toList.getLast? = ending.toList.getLast? := by
  have hnil : ending.toList ≠ [] := fun hnil => h (String.toList_eq_nil_iff.mp hnil)
  rw [Path.getLast?_join (by simp [h]), String.toList_append, List.getLast?_append,
    List.getLast?_eq_some_getLast hnil, Option.some_or]

/-- Shared libraries and static archives lie at different paths. -/
theorem join_shared_ne_join_archive (first second name other : String) :
    Path.join first ("lib" ++ name ++ ".so") ≠ Path.join second ("lib" ++ other ++ ".a") := by
  intro heq
  have hlast := congrArg (fun path : String => path.toList.getLast?) heq
  rw [getLast?_join_library _ _ (by decide), getLast?_join_library _ _ (by decide)] at hlast
  exact absurd hlast (by decide)

/-- A static archive does not end like a shared library. -/
theorem not_suffix_join_archive (directory name : String) :
    ¬ ".so".toList <:+ (Path.join directory ("lib" ++ name ++ ".a")).toList := by
  rintro ⟨front, hfront⟩
  have hlast := congrArg List.getLast? hfront
  rw [getLast?_join_library _ _ (by decide), List.getLast?_append] at hlast
  exact absurd hlast (by simp)

/-- What is found among static archives is the archive of its directory. -/
theorem FoundIn.eq_archive (hcolon : name.toList.head? ≠ some ':')
    (h : FoundIn host directories (libraryNames true name) number path) :
    ∃ directory, directories[number]? = some directory ∧
      path = Path.join directory ("lib" ++ name ++ ".a") := by
  obtain ⟨directory, hdirectory, hfound⟩ := h.found
  rw [libraryNames_of_noColon _ hcolon, if_pos rfl] at hfound
  have hmem := List.mem_of_find?_eq_some hfound
  exact ⟨directory, hdirectory, List.mem_singleton.mp hmem⟩

/-- A static archive that is found among shared libraries is found among static archives. -/
theorem FoundIn.archive (hcolon : name.toList.head? ≠ some ':')
    (h : FoundIn host directories (libraryNames false name) number
      (Path.join directory ("lib" ++ name ++ ".a"))) :
    FoundIn host directories (libraryNames true name) number
      (Path.join directory ("lib" ++ name ++ ".a")) := by
  obtain ⟨⟨other, hother, hfound⟩, hearlier⟩ := h
  refine ⟨⟨other, hother, ?_⟩, fun before hbefore directory hdirectory candidate hmem =>
    hearlier before hbefore directory hdirectory candidate (libraryNames_subset name hmem)⟩
  rw [libraryNames_of_noColon _ hcolon] at hfound ⊢
  -- The shared library of this directory, which is looked up first, is not what was found.
  have hshared : host.isFile (Path.join other ("lib" ++ name ++ ".so")) = false := by
    rw [Bool.eq_false_iff]
    intro hfile
    simp [hfile, join_shared_ne_join_archive] at hfound
  simpa [hshared] using hfound

/-! ## The two engines -/

/-- `state.FindsIn host staticOnly name number path` says that an engine in this state finds the
library at the path, in its search directory of this number. -/
def State.FindsIn (state : State) (host : HostView) (staticOnly : Bool) (name : Value) (number : Nat)
    (path : String) : Prop :=
  ∃ directories text, state.searchDirs = .ok directories ∧ name = .text text ∧
    FoundIn host directories (libraryNames staticOnly text) number path

variable {library : Value}

theorem findsIn_text_iff : state.FindsIn host staticOnly (.text name) number path ↔
    ∃ directories, state.searchDirs = .ok directories ∧
      FoundIn host directories (libraryNames staticOnly name) number path := by
  simp [State.FindsIn]

theorem findLibrary_eq_ok_iff_findsIn :
    state.findLibrary host staticOnly library = .ok path ↔
      ∃ number, state.FindsIn host staticOnly library number path := by
  constructor
  · intro hfound
    cases hdirectories : state.searchDirs with
    | error fault =>
        unfold State.findLibrary at hfound
        cases library <;> simp [hdirectories] at hfound
    | ok directories =>
        obtain ⟨text, rfl, hlooked⟩ := (findLibrary_eq_ok_iff hdirectories).mp hfound
        obtain ⟨number, hnumber⟩ := lookUp?_eq_some_iff_foundIn.mp hlooked
        exact ⟨number, directories, text, hdirectories, rfl, hnumber⟩
  · rintro ⟨number, directories, text, hdirectories, rfl, hnumber⟩
    exact (findLibrary_eq_ok_iff hdirectories).mpr
      ⟨text, rfl, lookUp?_eq_some_iff_foundIn.mpr ⟨number, hnumber⟩⟩

/-- An engine that also considers shared libraries finds a library in the same directory as one that
does not, or in an earlier one. -/
theorem State.FindsIn.exists_sooner (h : state.FindsIn host true library number path) :
    ∃ sooner ≤ number, ∃ other, state.FindsIn host false library sooner other := by
  obtain ⟨directories, text, hdirectories, rfl, hfound⟩ := h
  obtain ⟨sooner, hsooner, other, hother⟩ := hfound.exists_sooner (libraryNames_subset text)
  exact ⟨sooner, hsooner, other, directories, text, hdirectories, rfl, hother⟩

/-- A library is faulty for a blank name or a blank search directory. -/
theorem findLibrary_fault_iff {fault : Fault} :
    state.findLibrary host staticOnly library = .error (.fault fault) ↔
      library = .blank ∧ fault = .blank .inspected ∨
        library ≠ .blank ∧ state.searchDirs = .error fault := by
  cases library with
  | blank => simp [State.findLibrary, eq_comm]
  | text text =>
      cases hdirectories : state.searchDirs with
      | error other => simp [State.findLibrary, hdirectories, eq_comm]
      | ok directories =>
          have hnever : state.findLibrary host staticOnly (.text text) ≠ .error (.fault fault) :=
            findLibrary_ne_fault (by simp) hdirectories fault
          simp [hnever]

/-- What is refused among shared libraries is refused among static archives. -/
theorem refused_static_of_refused {detail : String}
    (h : state.findLibrary host false library = .error (.refused detail)) :
    ∃ other, state.findLibrary host true library = .error (.refused other) := by
  cases hstatic : state.findLibrary host true library with
  | ok path =>
      obtain ⟨number, hnumber⟩ := findLibrary_eq_ok_iff_findsIn.mp hstatic
      obtain ⟨sooner, -, other, hother⟩ := hnumber.exists_sooner
      have hshared := findLibrary_eq_ok_iff_findsIn.mpr ⟨sooner, hother⟩
      exact absurd (h.symm.trans hshared) (by simp)
  | error failure =>
      cases failure with
      | refused other => exact ⟨other, rfl⟩
      | fault fault =>
          have hshared : state.findLibrary host false library = .error (.fault fault) :=
            findLibrary_fault_iff.mpr (findLibrary_fault_iff.mp hstatic)
          exact absurd (h.symm.trans hshared) (by simp)

/-- Two engines in one state, of which one considers static archives alone, agree on what libraries
there are. A name that begins with a colon they find at the same path or refuse with the same words.
Any other library that is found among static archives is also found among shared libraries, in the
same directory or in an earlier one, and where that is a static archive, both find the same one.
What is not found among shared libraries is not found among static archives, which never end like a
shared library. -/
theorem static_resolution_agrees (host : HostView) (state : State) (library : Value) :
    (∀ staticOnly path, state.findLibrary host staticOnly library = .ok path ↔
      ∃ number, state.FindsIn host staticOnly library number path) ∧
    (∀ file, library = .text (":" ++ file) →
      state.findLibrary host true library = state.findLibrary host false library) ∧
    (∀ number path, state.FindsIn host true library number path →
      ∃ sooner ≤ number, ∃ other, state.FindsIn host false library sooner other) ∧
    (∀ fault, state.findLibrary host true library = .error (.fault fault) ↔
      state.findLibrary host false library = .error (.fault fault)) ∧
    (∀ detail, state.findLibrary host false library = .error (.refused detail) →
      ∃ other, state.findLibrary host true library = .error (.refused other)) ∧
    ∀ name, library = .text name → name.toList.head? ≠ some ':' →
      (∀ directory path, path = Path.join directory ("lib" ++ name ++ ".a") →
        state.findLibrary host false library = .ok path →
        state.findLibrary host true library = .ok path) ∧
      ∀ path, state.findLibrary host true library = .ok path → ¬ ".so".toList <:+ path.toList := by
  refine ⟨fun staticOnly path => findLibrary_eq_ok_iff_findsIn, ?_,
    fun number path hfinds => hfinds.exists_sooner, ?_, fun detail => refused_static_of_refused, ?_⟩
  · rintro file rfl
    simp only [State.findLibrary, libraryNames_verbatim]
  · intro fault
    rw [findLibrary_fault_iff, findLibrary_fault_iff]
  · rintro name rfl hcolon
    constructor
    · rintro directory path rfl hshared
      obtain ⟨number, hfinds⟩ := findLibrary_eq_ok_iff_findsIn.mp hshared
      obtain ⟨directories, hdirectories, hfound⟩ := findsIn_text_iff.mp hfinds
      exact findLibrary_eq_ok_iff_findsIn.mpr
        ⟨number, findsIn_text_iff.mpr ⟨directories, hdirectories, hfound.archive hcolon⟩⟩
    · intro path hstatic
      obtain ⟨number, hfinds⟩ := findLibrary_eq_ok_iff_findsIn.mp hstatic
      obtain ⟨directories, -, hfound⟩ := findsIn_text_iff.mp hfinds
      obtain ⟨directory, -, rfl⟩ := hfound.eq_archive hcolon
      exact not_suffix_join_archive directory name

/-- With a shared library in the first directory and a static archive in the second, the engines
find the library in different directories. -/
theorem static_resolution_agrees_behind_shared :
    let host := ((Host.new (some "/work")).withFile ["a", "libm.so"]).withFile ["b", "libm.a"]
    let state : State := { State.new with
      configuration := some ⟨none, "out", none, none, [], [],
        ["/a", "/b", "/lib", "/usr/lib"].map .text, .executable, false⟩ }
    state.findLibrary host false (.text "m") = .ok "/a/libm.so" ∧
      state.findLibrary host true (.text "m") = .ok "/b/libm.a" ∧
      state.FindsIn host true (.text "m") 1 "/b/libm.a" ∧
      (∃ sooner ≤ 1, ∃ other, state.FindsIn host false (.text "m") sooner other) ∧
      ¬ ".so".toList <:+ "/b/libm.a".toList := by
  intro host state
  obtain ⟨-, -, hsooner, -, -, hnamed⟩ := static_resolution_agrees host state (.text "m")
  have hstatic : state.findLibrary host true (.text "m") = .ok "/b/libm.a" := by decide +kernel
  have hfinds : state.FindsIn host true (.text "m") 1 "/b/libm.a" := by
    refine ⟨["/a", "/b", "/lib", "/usr/lib"], "m", by decide, rfl, ⟨"/b", rfl, by decide +kernel⟩, ?_⟩
    intro before hbefore directory hdirectory
    obtain rfl : before = 0 := by omega
    obtain rfl := Option.some.inj hdirectory
    decide +kernel
  exact ⟨by decide +kernel, hstatic, hfinds, hsooner _ _ hfinds,
    (hnamed "m" rfl (by decide)).2 _ hstatic⟩

end LinkDriver.Gnu
