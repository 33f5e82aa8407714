import LinkDriver.Proofs.Engine.LibrarySearch
import LinkDriver.Proofs.FileTree

/-!
# Libraries in a sysroot

Where a sysroot is set and the user's search directories all lie in it, every directory that is
searched begins with the sysroot. Read `library_in_sysroot_iff` first: a library is found elsewhere
only under an absolute file name, to which no directory is joined. What begins with the sysroot also
lies below it, unless a directory or a name steps up.
-/

namespace LinkDriver

/-! ## Places -/

namespace Host

variable {host : Host} {path sysroot : String}

/-- Paths that begin alike are looked up from one place. -/
theorem start?_of_prefix (hne : sysroot ≠ "") (h : sysroot.toList <+: path.toList) :
    host.start? path = host.start? sysroot := by
  have hnil : sysroot.toList ≠ [] := mt String.toList_eq_nil_iff.mp hne
  have hhead : path.toList.head? = sysroot.toList.head? := by
    obtain ⟨first, rest, hcons⟩ := List.exists_cons_of_ne_nil hnil
    obtain ⟨behind, hbehind⟩ := h
    rw [← hbehind, hcons]
    rfl
  unfold start? Path.isAbsolute
  rw [hhead]

/-- The path leads to a place at or below the one that the sysroot names. -/
def Below (host : Host) (sysroot path : String) : Prop :=
  ∃ start place, host.start? sysroot = some start ∧ host.find? path = some place ∧
    Path.follow start sysroot <+: place

end Host

namespace Gnu

/-- The namespec names a file of the host by an absolute path that does not begin with the
sysroot. -/
def NamesHostFile (host : Host) (sysroot : String) (name : Value) : Prop :=
  ∃ file, name = .text (":" ++ file) ∧ Path.isAbsolute file = true ∧ host.isFile file = true ∧
    ¬ sysroot.toList <+: file.toList

/-- `OnlyDown staticOnly inner name` says that no part of the lookup of a library steps up: the
directories inside the sysroot are given by absolute paths or are the sysroot itself, the names are
relative, and neither have a component `..`. -/
structure OnlyDown (staticOnly : Bool) (inner : List String) (name : Value) : Prop where
  directories : ∀ directory ∈ inner, (directory = "" ∨ Path.isAbsolute directory = true) ∧
    ".." ∉ Path.components directory
  names : ∀ text, name = .text text → ∀ file ∈ libraryNames staticOnly text,
    Path.isAbsolute file = false ∧ ".." ∉ Path.components file

variable {options : LinkOptions} {output : String} {configuration : Configuration}
  {sysroot : String} {inner : List String} {host : Host} {staticOnly : Bool} {path : String}

/-! ## Directories -/

/-- With a sysroot, directories that all begin with `=` are searched in it, and so are those of the
system. -/
theorem searchDirsOf_rebased (hconfiguration : options.configuration? output = some configuration)
    (hsysroot : configuration.sysroot = some sysroot)
    (hinner : options.searchDirs = some (inner.map fun directory => .text ("=" ++ directory))) :
    searchDirsOf configuration = .ok ((inner ++ ["/lib", "/usr/lib"]).map (sysroot ++ ·)) := by
  have huser : options.searchDirs = some ((inner.map ("=" ++ ·)).map .text) := by
    rw [hinner, List.map_map]
    rfl
  have hrebased : ∀ directory : String,
      userDirectory (some sysroot) ("=" ++ directory) = sysroot ++ directory := by
    intro directory
    simp [userDirectory]
  rw [searchDirsOf_eq (LinkOptions.configured_of_configuration? hconfiguration) huser, hsysroot,
    searchOrder, List.map_map, List.map_append]
  simp only [Function.comp_def, hrebased]
  rfl

/-! ## Lookups -/

/-- A library that is found is a regular file at a name in a directory. -/
theorem exists_of_lookUp? {directories names : List String}
    (h : lookUp? host directories names = some path) :
    host.isFile path = true ∧ ∃ directory ∈ directories, ∃ name ∈ names,
      path = Path.join directory name := by
  obtain ⟨earlier, directory, later, sooner, name, others, rfl, rfl, hpath, hfile, -, -⟩ :=
    lookUp?_eq_some_iff.mp h
  exact ⟨hfile, directory, by simp, name, by simp, hpath⟩

/-- An absolute name is looked up at its own path alone. -/
theorem lookUp?_of_isAbsolute {directories : List String} {file : String}
    (hdirectories : directories ≠ []) (habsolute : Path.isAbsolute file = true)
    (hfile : host.isFile file = true) : lookUp? host directories [file] = some file := by
  obtain ⟨first, rest, rfl⟩ := List.exists_cons_of_ne_nil hdirectories
  have hjoin : Path.join first file = file := by
    rw [Path.join, if_pos habsolute]
  unfold lookUp? candidates
  rw [List.flatMap_cons, List.map_singleton, hjoin, List.singleton_append, List.find?_cons_of_pos]
  exact hfile

/-- Only a file name that is given as it stands can be absolute. -/
theorem eq_verbatim_of_isAbsolute {text file : String} (h : file ∈ libraryNames staticOnly text)
    (habsolute : Path.isAbsolute file = true) : text = ":" ++ file := by
  unfold libraryNames at h
  split at h
  · rename_i rest htext
    obtain rfl := List.mem_singleton.mp h
    rw [← String.toList_inj, htext]
    simp
  · have hlib : ∀ ending : String, Path.isAbsolute ("lib" ++ text ++ ending) = false := by
      intro ending
      simp [Path.isAbsolute]
    split at h
    · obtain rfl := List.mem_singleton.mp h
      exact absurd (habsolute.symm.trans (hlib _)) (by simp)
    · rcases List.mem_cons.mp h with rfl | h
      · exact absurd (habsolute.symm.trans (hlib _)) (by simp)
      · obtain rfl := List.mem_singleton.mp h
        exact absurd (habsolute.symm.trans (hlib _)) (by simp)

/-- With a sysroot, every library is found at a path that begins with it, unless the namespec names
a file of the host. -/
theorem prefix_of_findLibrary_iff {state : State} {name : Value}
    (hdirectories : state.searchDirs = .ok ((inner ++ ["/lib", "/usr/lib"]).map (sysroot ++ ·))) :
    (∀ path, state.findLibrary host staticOnly name = .ok path →
        sysroot.toList <+: path.toList) ↔ ¬ NamesHostFile host sysroot name := by
  constructor
  · rintro hall ⟨file, rfl, habsolute, hfile, hbegins⟩
    refine hbegins (hall file ((findLibrary_eq_ok_iff hdirectories).mpr ⟨_, rfl, ?_⟩))
    rw [libraryNames_verbatim]
    exact lookUp?_of_isAbsolute (by simp) habsolute hfile
  · intro hnone path hfound
    obtain ⟨text, rfl, hlookUp⟩ := (findLibrary_eq_ok_iff hdirectories).mp hfound
    obtain ⟨hfile, directory, hdirectory, file, hmem, rfl⟩ := exists_of_lookUp? hlookUp
    obtain ⟨rest, -, rfl⟩ := List.mem_map.mp hdirectory
    cases habsolute : Path.isAbsolute file with
    | false =>
        have hbehind : sysroot.toList <+: (sysroot ++ rest).toList :=
          ⟨rest.toList, by rw [String.toList_append]⟩
        exact hbehind.trans (Path.prefix_join habsolute)
    | true =>
        have hjoin : Path.join (sysroot ++ rest) file = file := by
          rw [Path.join, if_pos habsolute]
        rw [hjoin] at hfile ⊢
        by_contra hbegins
        exact hnone ⟨file, by rw [eq_verbatim_of_isAbsolute hmem habsolute], habsolute, hfile,
          hbegins⟩

/-- A library whose lookup never steps up is found below the sysroot. -/
theorem below_of_findLibrary {state : State} {name : Value} (hne : sysroot ≠ "")
    (hdirectories : state.searchDirs = .ok ((inner ++ ["/lib", "/usr/lib"]).map (sysroot ++ ·)))
    (hdown : OnlyDown staticOnly inner name)
    (hfound : state.findLibrary host staticOnly name = .ok path) : host.Below sysroot path := by
  obtain ⟨text, rfl, hlookUp⟩ := (findLibrary_eq_ok_iff hdirectories).mp hfound
  obtain ⟨hfile, directory, hdirectory, file, hmem, rfl⟩ := exists_of_lookUp? hlookUp
  obtain ⟨rest, hrest, rfl⟩ := List.mem_map.mp hdirectory
  obtain ⟨hrelative, hname⟩ := hdown.names text rfl file hmem
  have hinside : (rest = "" ∨ Path.isAbsolute rest = true) ∧ ".." ∉ Path.components rest := by
    rcases List.mem_append.mp hrest with hmem | hmem
    · exact hdown.directories rest hmem
    · have hsystem : ∀ directory ∈ ["/lib", "/usr/lib"], Path.isAbsolute directory = true ∧
          ".." ∉ Path.components directory := by decide
      obtain ⟨habsolute, hcomponents⟩ := hsystem rest hmem
      exact ⟨Or.inr habsolute, hcomponents⟩
  obtain ⟨place, hplace⟩ := Host.find?_of_isFile hfile
  obtain ⟨start, hstart, rfl⟩ := Host.eq_follow_of_find? hplace
  have hbase : sysroot ++ rest ≠ "" := by simp [hne]
  have hbegins : sysroot.toList <+: (Path.join (sysroot ++ rest) file).toList :=
    List.IsPrefix.trans ⟨rest.toList, by rw [String.toList_append]⟩ (Path.prefix_join hrelative)
  rw [Host.start?_of_prefix hne hbegins] at hstart
  refine ⟨start, _, hstart, hplace, ?_⟩
  -- The path is followed from the sysroot through the directory to the name, and never up.
  rw [Path.follow_join hbase hrelative]
  refine List.IsPrefix.trans ?_ (Path.prefix_follow hname)
  rcases hinside.1 with rfl | habsolute
  · simp
  · rw [Path.follow_append habsolute]
    exact Path.prefix_follow hinside.2

/-- For every configuration with a sysroot in which the user's search directories begin with `=`:
every path at which a library is found begins with the sysroot exactly if the namespec names no file
of the host by an absolute path. Such a path leads to a place below the sysroot if no part of the
lookup steps up. -/
theorem library_in_sysroot_iff
    (hconfiguration : options.configuration? output = some configuration)
    (hsysroot : configuration.sysroot = some sysroot)
    (hinner : options.searchDirs = some (inner.map fun directory => .text ("=" ++ directory)))
    {state : State} (hstate : state.configuration = some configuration) (host : Host)
    (staticOnly : Bool) (name : Value) :
    ((∀ path, state.findLibrary host staticOnly name = .ok path →
        sysroot.toList <+: path.toList) ↔ ¬ NamesHostFile host sysroot name) ∧
      (OnlyDown staticOnly inner name → ∀ path,
        state.findLibrary host staticOnly name = .ok path → host.Below sysroot path) := by
  have hdirectories :
      state.searchDirs = .ok ((inner ++ ["/lib", "/usr/lib"]).map (sysroot ++ ·)) := by
    unfold State.searchDirs
    rw [hstate]
    exact searchDirsOf_rebased hconfiguration hsysroot hinner
  have hne : sysroot ≠ "" :=
    (LinkOptions.configured_of_configuration? hconfiguration).sysroot_ne_empty hsysroot
  exact ⟨prefix_of_findLibrary_iff hdirectories, fun hdown path hfound =>
    below_of_findLibrary hne hdirectories hdown hfound⟩

/-- A library that lies both in the sysroot and outside is found in the sysroot. -/
theorem library_in_sysroot_before_host :
    let options : LinkOptions :=
      ⟨some [⟨1, "a.o"⟩], some [⟨2, .text "m"⟩], none, none, some "/sr", none, some [], some [],
        some [.text "=/opt"], false, true, none⟩
    let host := ((Host.new (some "/work")).withFile ["sr", "opt", "libm.so"]).withFile
      ["lib", "libm.so"]
    ∃ configuration, options.configuration? "out" = some configuration ∧
      configuration.sysroot = some "/sr" ∧
      let state : State := ⟨some configuration, none, []⟩
      state.findLibrary host false (.text "m") = .ok "/sr/opt/libm.so" ∧
      (∀ path, state.findLibrary host false (.text "m") = .ok path →
        "/sr".toList <+: path.toList) ∧
      host.Below "/sr" "/sr/opt/libm.so" := by
  intro options host
  have hinner : options.searchDirs =
      some (["/opt"].map fun directory => .text ("=" ++ directory)) := by
    decide
  refine ⟨_, rfl, rfl, ?_⟩
  intro state
  have hfound : state.findLibrary host false (.text "m") = .ok "/sr/opt/libm.so" := by
    decide +kernel
  have hstate : state.configuration = options.configuration? "out" := rfl
  obtain ⟨hbegins, hbelow⟩ := library_in_sysroot_iff rfl rfl hinner hstate host false (.text "m")
  refine ⟨hfound, hbegins.mpr ?_, hbelow ⟨by decide, ?_⟩ _ hfound⟩
  · rintro ⟨file, hname, -⟩
    have hcolon := congrArg String.toList (Value.text.inj hname)
    exact absurd hcolon (by simp)
  · intro text htext
    obtain rfl := Value.text.inj htext
    decide

/-- A file of the host is taken for a library although there is a sysroot. -/
theorem host_file_found_despite_sysroot :
    let options : LinkOptions :=
      ⟨some [⟨1, "a.o"⟩], some [⟨2, .text ":/host/libx.so"⟩], none, none, some "/sr", none, some [],
        some [], some [], false, true, none⟩
    let host := (Host.new (some "/work")).withFile ["host", "libx.so"]
    ∃ configuration, options.configuration? "out" = some configuration ∧
      configuration.sysroot = some "/sr" ∧
      State.findLibrary host false ⟨some configuration, none, []⟩ (.text ":/host/libx.so") =
        .ok "/host/libx.so" ∧
      ¬ "/sr".toList <+: "/host/libx.so".toList ∧ ¬ host.Below "/sr" "/host/libx.so" := by
  intro options host
  refine ⟨_, rfl, rfl, by decide +kernel, by decide, ?_⟩
  rintro ⟨start, place, hstart, hplace, hbelow⟩
  obtain rfl : [] = start := by simpa [Host.start?, Path.isAbsolute] using hstart
  obtain rfl : ["host", "libx.so"] = place := Option.some.inj (hplace ▸ by decide +kernel)
  exact absurd hbelow (by decide)

end Gnu

end LinkDriver
