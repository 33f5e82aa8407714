import LinkDriver.Proofs.Attempt
import LinkDriver.Proofs.Plan

/-!
# Whole options

An attempt needs all lists of its options, and its engine needs texts for the libraries, the search
directories and the portable symbols. Options that have them are whole: they can be configured, and
no blank reaches the engine where it needs a text (`Prepared.textual`).
-/

namespace LinkDriver

/-- The options have all their lists. -/
structure LinkOptions.IsListed (options : LinkOptions) : Prop where
  namespecs : ∃ namespecs, options.namespecs = some namespecs
  wraps : ∃ wraps, options.wraps = some wraps
  portables : ∃ portables, options.portables = some portables
  searchDirs : ∃ directories, options.searchDirs = some directories

/-- The options have all their lists, and no value is blank where the engine needs a text. -/
structure LinkOptions.IsWhole (options : LinkOptions) : Prop where
  namespecs : ∃ namespecs, options.namespecs = some namespecs ∧
    ∀ spec ∈ namespecs, spec.name ≠ .blank
  wraps : ∃ wraps, options.wraps = some wraps
  portables : ∃ portables, options.portables = some portables ∧ .blank ∉ portables
  searchDirs : ∃ directories, options.searchDirs = some directories ∧ .blank ∉ directories

variable {host : HostView} {options : LinkOptions}

/-- Whole options have all their lists. -/
theorem LinkOptions.IsWhole.isListed (h : options.IsWhole) : options.IsListed where
  namespecs := h.namespecs.imp fun _ => And.left
  wraps := h.wraps
  portables := h.portables.imp fun _ => And.left
  searchDirs := h.searchDirs.imp fun _ => And.left

/-- Whole options are configured without a blank. -/
theorem LinkOptions.IsWhole.configured (h : options.IsWhole) (output : String) :
    ∃ configuration, options.configuration? output = some configuration ∧
      .blank ∉ configuration.portables ∧ .blank ∉ configuration.searchDirs := by
  obtain ⟨wraps, hwraps⟩ := h.wraps
  obtain ⟨portables, hportables, hportable⟩ := h.portables
  obtain ⟨directories, hdirectories, hdirectory⟩ := h.searchDirs
  unfold configuration?
  rw [hwraps, hportables, hdirectories]
  exact ⟨_, rfl, hportable, by simp [Configuration.systemSearchDirs, hdirectory]⟩

/-- What is prepared from whole options has no blank where the engine needs a text. -/
theorem Prepared.textual {output : String} {configuration : Configuration}
    {namespecs : List NameSpec} (h : Prepared host options output configuration namespecs)
    (hwhole : options.IsWhole) :
    .blank ∉ configuration.portables ∧ .blank ∉ configuration.searchDirs ∧
      ∀ spec, .namespec spec ∈ plan (options.objects.getD []) namespecs → spec.name ≠ .blank := by
  obtain ⟨names, hnames, hname⟩ := hwhole.namespecs
  obtain rfl : namespecs = names := Option.some.inj (h.listed.symm.trans hnames)
  obtain ⟨built, hbuilt, hportables, hsearchDirs⟩ := hwhole.configured output
  obtain rfl : configuration = built := Option.some.inj (h.configured.symm.trans hbuilt)
  refine ⟨hportables, hsearchDirs, ?_⟩
  intro spec hspec
  rcases List.mem_append.mp (plan_subset _ _ hspec) with hmem | hmem
  · obtain ⟨object, -, hobject⟩ := List.mem_map.mp hmem
    exact absurd hobject (by simp)
  · obtain ⟨namespec, hnamespec, hsame⟩ := List.mem_map.mp hmem
    obtain rfl := Item.namespec.inj hsame
    exact hname namespec hnamespec

end LinkDriver
