import LinkDriver.Options

/-!
# What a configuration takes from the options

`configured_of_configuration?` says what every field of a configuration is. The texts that the user
left out or left empty are absent, and the search directories of the system follow the user's.
-/

namespace LinkDriver

/-- A text that counts as given is not empty. -/
theorem ne_empty_of_given? {text : Option String} {content : String}
    (h : given? text = some content) : content ≠ "" := by
  simpa [given?] using (Option.filter_eq_some_iff.mp h).2

theorem given?_given? (text : Option String) : given? (given? text) = given? text := by
  unfold given?
  rw [Option.filter_filter]
  simp

namespace LinkOptions

variable {options : LinkOptions} {output : String} {configuration : Configuration}

/-- `Configured options output configuration` says the configuration is that of the options, where
the output stands in for a missing soname. -/
structure Configured (options : LinkOptions) (output : String) (configuration : Configuration) :
    Prop where
  targetTriple : configuration.targetTriple = options.targetTriple
  soname : configuration.soname = (given? options.soname).getD output
  sysroot : configuration.sysroot = given? options.sysroot
  dynamicLinker : configuration.dynamicLinker = given? options.dynamicLinker
  wraps : options.wraps = some configuration.wraps
  portables : options.portables = some configuration.portables
  searchDirs : ∃ directories, options.searchDirs = some directories ∧
    configuration.searchDirs = directories ++ Configuration.systemSearchDirs
  outputKind : configuration.outputKind =
    if options.shared then .sharedLibrary else .executable
  symbolic : configuration.symbolic = options.symbolic

theorem configured_of_configuration? (h : options.configuration? output = some configuration) :
    Configured options output configuration := by
  obtain ⟨wraps, hwraps, h⟩ := Option.bind_eq_some_iff.mp h
  obtain ⟨portables, hportables, h⟩ := Option.bind_eq_some_iff.mp h
  obtain ⟨directories, hdirectories, h⟩ := Option.bind_eq_some_iff.mp h
  obtain rfl := Option.some.inj h
  exact ⟨rfl, rfl, rfl, rfl, hwraps, hportables, ⟨directories, hdirectories, rfl⟩, rfl, rfl⟩

/-- Options are configured unless one of their lists is withdrawn. -/
theorem configuration?_eq_none_iff {output : String} :
    options.configuration? output = none ↔
      options.wraps = none ∨ options.portables = none ∨ options.searchDirs = none := by
  unfold configuration?
  cases options.wraps <;> cases options.portables <;> cases options.searchDirs <;> simp

namespace Configured

/-- The directories of a configuration are the user's and the system's. -/
theorem searchDirs_eq (h : Configured options output configuration) {directories : List Value}
    (hdirectories : options.searchDirs = some directories) :
    configuration.searchDirs = directories ++ Configuration.systemSearchDirs := by
  obtain ⟨others, hothers, hsearched⟩ := h.searchDirs
  obtain rfl := Option.some.inj (hothers.symm.trans hdirectories)
  exact hsearched

/-- A sysroot that is configured is not empty. -/
theorem sysroot_ne_empty (h : Configured options output configuration) {sysroot : String}
    (hsysroot : configuration.sysroot = some sysroot) : sysroot ≠ "" :=
  ne_empty_of_given? (h.sysroot.symm.trans hsysroot)

theorem given?_sysroot (h : Configured options output configuration) :
    given? configuration.sysroot = configuration.sysroot := by
  rw [h.sysroot, given?_given?]

theorem given?_dynamicLinker (h : Configured options output configuration) :
    given? configuration.dynamicLinker = configuration.dynamicLinker := by
  rw [h.dynamicLinker, given?_given?]

end Configured

end LinkOptions

end LinkDriver
