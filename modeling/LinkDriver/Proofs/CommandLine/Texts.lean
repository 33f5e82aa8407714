import LinkDriver.Proofs.CommandLine.Rejection

/-!
# Command lines without blanks

Where no text attached to an option is the end of the options, no value among the arguments of a
parsed command line is blank. Read `AcceptedAs.isTextual` first; `isTextual_of_take` says so of one
occurrence. Parsing may make files on its host, but leaves the working directory as it was.
-/

namespace LinkDriver.CommandLine

/-- No value is blank where a link needs a text. -/
structure Arguments.IsTextual (arguments : Arguments) : Prop where
  libraries : .blank ∉ arguments.libraries
  searchDirs : .blank ∉ arguments.searchDirs
  portables : .blank ∉ arguments.portables
  log : arguments.log ≠ none

theorem Arguments.isTextual_initial : Arguments.initial.IsTextual := by
  constructor <;> simp [initial]

namespace Progress

variable {progress next : Progress}

/-- A level that is a text is set. -/
theorem log_of_takeLevel {name : String} (h : progress.takeLevel (.text name) = (next, none)) :
    ∃ level, next.arguments = { progress.arguments with log := some level } := by
  simp only [takeLevel] at h
  split at h
  · exact absurd h (by simp [reject])
  · exact ⟨_, arguments_of_update h⟩

/-- An occurrence that is not blank keeps the arguments free of blanks. -/
theorem isTextual_of_take {occurrence : Occurrence} (h : progress.take occurrence = (next, none))
    (hvalue : occurrence.opt.takesValue = true → occurrence.value ≠ .blank)
    (htextual : progress.arguments.IsTextual) : next.arguments.IsTextual := by
  obtain ⟨hlibraries, hsearchDirs, hportables, hlog⟩ := htextual
  obtain ⟨opt, position, clustered, argument⟩ := occurrence
  cases opt <;> simp only [take] at h
  case help | version => simp at h
  case log =>
    obtain ⟨name, hname⟩ : ∃ name, Occurrence.value ⟨.log, position, clustered, argument⟩ =
        .text name := by
      cases hcase : Occurrence.value ⟨.log, position, clustered, argument⟩ with
      | text name => exact ⟨name, rfl⟩
      | blank => exact absurd hcase (hvalue rfl)
    rw [hname] at h
    obtain ⟨level, hlevel⟩ := log_of_takeLevel h
    rw [hlevel]
    exact ⟨hlibraries, hsearchDirs, hportables, by simp⟩
  case report | textReport =>
    obtain ⟨destination, hdestination⟩ := arguments_of_takeReport h
    rw [hdestination]
    exact ⟨hlibraries, hsearchDirs, hportables, hlog⟩
  case output | sysroot | soname | dynamicLinker =>
    rw [arguments_of_once h]
    exact ⟨hlibraries, hsearchDirs, hportables, hlog⟩
  case library =>
    have hblank := hvalue rfl
    rw [arguments_of_update h]
    exact ⟨by simp [hlibraries, hblank.symm], hsearchDirs, hportables, hlog⟩
  case searchDir =>
    have hblank := hvalue rfl
    rw [arguments_of_update h]
    exact ⟨hlibraries, by simp [hsearchDirs, hblank.symm], hportables, hlog⟩
  case portable =>
    have hblank := hvalue rfl
    rw [arguments_of_update h]
    exact ⟨hlibraries, hsearchDirs, by simp [hportables, hblank.symm], hlog⟩
  all_goals
    rw [arguments_of_update h]
    exact ⟨hlibraries, hsearchDirs, hportables, hlog⟩

/-- Occurrences that are not blank keep the arguments free of blanks. -/
theorem isTextual_of_takeAll {occurrences : List Occurrence}
    (h : progress.takeAll occurrences = (next, none))
    (hvalues : ∀ occurrence ∈ occurrences,
      occurrence.opt.takesValue = true → occurrence.value ≠ .blank)
    (htextual : progress.arguments.IsTextual) : next.arguments.IsTextual := by
  induction occurrences generalizing progress with
  | nil =>
      obtain ⟨rfl, -⟩ := Prod.mk.inj h
      exact htextual
  | cons occurrence rest ih =>
      unfold takeAll at h
      split at h
      · rename_i taken htaken
        have hfirst := hvalues occurrence (List.mem_cons_self ..)
        exact ih h (fun other hmem => hvalues other (List.mem_cons_of_mem _ hmem))
          (isTextual_of_take htaken hfirst htextual)
      · rename_i stopped hstopped
        simp [h] at hstopped

end Progress

/-- Where no blank is attached, no value among the arguments is blank. -/
theorem AcceptedAs.isTextual {host : Host} {commandLine : List String} {arguments : Arguments}
    (h : AcceptedAs host commandLine arguments) (hblank : (readingOf commandLine).NoBlank) :
    arguments.IsTextual := by
  obtain ⟨progress, htaken, harguments⟩ := h.taken
  have hprogress := Progress.isTextual_of_takeAll htaken
    (fun occurrence hmem => h.value_ne_blank hblank hmem) Arguments.isTextual_initial
  rw [harguments]
  exact ⟨hprogress.libraries, hprogress.searchDirs, hprogress.portables, hprogress.log⟩

/-! ## The working directory -/

/-- Opening a file for writing leaves the working directory as it was. -/
theorem workingDirectory_of_create {host made : Host} {path : String} {place : List String}
    (h : host.create path = .ok (made, place)) : made.workingDirectory = host.workingDirectory := by
  unfold Host.create at h
  split at h
  · split at h
    · exact absurd h (by simp)
    · exact absurd h (by simp)
    · obtain ⟨rfl, -⟩ := Prod.mk.inj (Except.ok.inj h)
      rfl
  · split at h
    · exact absurd h (by simp)
    · split at h
      · exact absurd h (by simp)
      · split at h
        · obtain ⟨rfl, -⟩ := Prod.mk.inj (Except.ok.inj h)
          rfl
        · exact absurd h (by simp)

namespace Progress

theorem workingDirectory_of_openReport {progress opened : Progress} {value : Value}
    {destination : Destination} (h : progress.openReport value = .ok (opened, destination)) :
    opened.host.workingDirectory = progress.host.workingDirectory := by
  unfold openReport at h
  split at h
  · obtain ⟨rfl, -⟩ := Prod.mk.inj (Except.ok.inj h)
    rfl
  · split at h
    · obtain ⟨rfl, -⟩ := Prod.mk.inj (Except.ok.inj h)
      rfl
    · split at h
      · exact absurd h (by simp)
      · rename_i host place hcreate
        obtain ⟨rfl, -⟩ := Prod.mk.inj (Except.ok.inj h)
        exact workingDirectory_of_create hcreate

variable (progress : Progress)

theorem host_once {α : Type} (opt : Opt) (current : Arguments → Option α)
    (change : Arguments → Arguments) :
    (progress.once opt current change).1.host = progress.host := by
  unfold once
  split <;> rfl

theorem workingDirectory_takeReport (opt : Opt) (value : Value)
    (current : Arguments → Option Destination) (change : Destination → Arguments → Arguments) :
    (progress.takeReport opt value current change).1.host.workingDirectory =
      progress.host.workingDirectory := by
  unfold takeReport
  split
  · rfl
  · rename_i opened destination hopened
    rw [host_once]
    exact workingDirectory_of_openReport hopened

theorem host_takeLevel (value : Value) :
    (progress.takeLevel value).1.host = progress.host := by
  unfold takeLevel
  split
  · rfl
  · split <;> rfl

/-- Taking an occurrence leaves the working directory as it was. -/
theorem workingDirectory_take (occurrence : Occurrence) :
    (progress.take occurrence).1.host.workingDirectory = progress.host.workingDirectory := by
  obtain ⟨opt, position, clustered, argument⟩ := occurrence
  cases opt with
  | report | textReport => exact workingDirectory_takeReport ..
  | log => exact congrArg Host.workingDirectory (host_takeLevel ..)
  | output | sysroot | soname | dynamicLinker =>
      exact congrArg Host.workingDirectory (host_once ..)
  | help | version | verbose | library | searchDir | shared | symbolic | noSymbolic | wrap
  | portable | target | linker | static | dryRun => rfl

/-- Taking occurrences leaves the working directory as it was. -/
theorem workingDirectory_takeAll (occurrences : List Occurrence) :
    (progress.takeAll occurrences).1.host.workingDirectory = progress.host.workingDirectory := by
  induction occurrences generalizing progress with
  | nil => rfl
  | cons occurrence rest ih =>
      have htake := workingDirectory_take progress occurrence
      unfold takeAll
      split
      · rename_i next hnext
        rw [ih next, ← htake, hnext]
      · exact htake

end Progress

/-- Parsing a command line leaves the working directory as it was. -/
theorem workingDirectory_parse (host : Host) (commandLine : List String) :
    (parse host commandLine).host.workingDirectory = host.workingDirectory :=
  Progress.workingDirectory_takeAll (Progress.start host) _

end LinkDriver.CommandLine
