import LinkDriver.CommandLine.Arguments
import LinkDriver.Proofs.CommandLine.Reads
import Mathlib.Data.List.TakeWhile

/-!
# What a parsed command line says

`parse_eq_ok_iff` takes a successful parse apart: the arguments before the end of the options are
read without a complaint, every occurrence of an option is taken, and nothing is left over. From
there the objects are the operands followed by all arguments behind the end of the options, and
`libraries_of_takeAll` says the libraries are the values of the library occurrences in their order.
-/

namespace LinkDriver.CommandLine

/-! ## The end of the options -/

/-- A command line without an end of the options has nothing behind it. -/
theorem commandLine_split (commandLine : List String) :
    commandLine = beforeEnd commandLine ∧ behindEnd commandLine = [] ∨
      commandLine = beforeEnd commandLine ++ endOfOptions :: behindEnd commandLine := by
  have hparts := List.takeWhile_append_dropWhile (p := fun argument => argument ≠ endOfOptions)
    (l := commandLine)
  unfold beforeEnd behindEnd
  cases hdrop : commandLine.dropWhile fun argument => argument ≠ endOfOptions with
  | nil =>
      left
      rw [hdrop, List.append_nil] at hparts
      exact ⟨hparts.symm, rfl⟩
  | cons first rest =>
      right
      have hfirst : first = endOfOptions := by
        have hhead := List.head?_dropWhile_not (fun argument => argument ≠ endOfOptions) commandLine
        rw [hdrop] at hhead
        simpa using hhead
      rw [hdrop, hfirst] at hparts
      exact hparts.symm

/-- A command line begins with the arguments before the end of the options. -/
theorem beforeEnd_begins (commandLine : List String) : beforeEnd commandLine <+: commandLine :=
  List.takeWhile_prefix _

theorem endOfOptions_not_mem_beforeEnd (commandLine : List String) :
    endOfOptions ∉ beforeEnd commandLine := by
  intro hmem
  have hall := List.all_takeWhile (p := fun argument => argument ≠ endOfOptions) (l := commandLine)
  rw [List.all_eq_true] at hall
  simpa using hall endOfOptions hmem

/-- Where no end of the options stands, all arguments stand before it. -/
theorem beforeEnd_of_not_mem {commandLine : List String} (h : endOfOptions ∉ commandLine) :
    beforeEnd commandLine = commandLine ∧ behindEnd commandLine = [] := by
  have hplain : ∀ argument ∈ commandLine, decide (argument ≠ endOfOptions) = true :=
    fun argument hmem => decide_eq_true fun heq => h (heq ▸ hmem)
  exact ⟨List.takeWhile_eq_self_iff.mpr hplain,
    congrArg (List.drop 1) (List.dropWhile_eq_nil_iff.mpr hplain)⟩

/-- The first end of the options divides a command line, whatever stands behind it. -/
theorem beforeEnd_append {head : List String} (h : endOfOptions ∉ head) (tail : List String) :
    beforeEnd (head ++ endOfOptions :: tail) = head ∧
      behindEnd (head ++ endOfOptions :: tail) = tail := by
  have hplain : ∀ argument ∈ head, decide (argument ≠ endOfOptions) = true :=
    fun argument hmem => decide_eq_true fun heq => h (heq ▸ hmem)
  unfold beforeEnd behindEnd
  rw [List.takeWhile_append_of_pos hplain, List.takeWhile_cons_of_neg (by simp), List.append_nil,
    List.dropWhile_append_of_pos hplain, List.dropWhile_cons_of_neg (by simp)]
  exact ⟨rfl, rfl⟩

/-! ## Libraries -/

/-- The reading of the arguments before the end of the options. -/
abbrev readingOf (commandLine : List String) : Reading :=
  read 1 (beforeEnd commandLine)

namespace Reading

/-- The occurrences of the library option in their order. -/
def libraries (reading : Reading) : List Occurrence :=
  reading.occurrences.filter fun occurrence => occurrence.opt = .library

end Reading

/-! ## Taking occurrences -/

namespace Progress

variable {progress next : Progress}

theorem arguments_of_update {change : Arguments → Arguments}
    (h : progress.update change = (next, none)) :
    next.arguments = change progress.arguments := by
  obtain ⟨rfl, -⟩ := Prod.mk.inj h
  rfl

theorem arguments_of_once {α : Type} {opt : Opt} {current : Arguments → Option α}
    {change : Arguments → Arguments} (h : progress.once opt current change = (next, none)) :
    next.arguments = change progress.arguments := by
  unfold once at h
  split at h
  · simp [reject] at h
  · exact arguments_of_update h

/-- Opening a report changes no argument. -/
theorem arguments_of_openReport {value : Value} {opened : Progress} {destination : Destination}
    (h : progress.openReport value = .ok (opened, destination)) :
    opened.arguments = progress.arguments := by
  unfold openReport at h
  split at h
  · obtain ⟨rfl, -⟩ := Prod.mk.inj (Except.ok.inj h)
    rfl
  · split at h
    · obtain ⟨rfl, -⟩ := Prod.mk.inj (Except.ok.inj h)
      rfl
    · split at h
      · exact absurd h (by simp)
      · obtain ⟨rfl, -⟩ := Prod.mk.inj (Except.ok.inj h)
        rfl

theorem arguments_of_takeReport {opt : Opt} {value : Value}
    {current : Arguments → Option Destination} {change : Destination → Arguments → Arguments}
    (h : progress.takeReport opt value current change = (next, none)) :
    ∃ destination, next.arguments = change destination progress.arguments := by
  unfold takeReport at h
  split at h
  · simp [reject] at h
  · rename_i opened destination hopened
    refine ⟨destination, ?_⟩
    rw [arguments_of_once h, arguments_of_openReport hopened]

theorem arguments_of_takeLevel {value : Value} (h : progress.takeLevel value = (next, none)) :
    ∃ level, next.arguments = { progress.arguments with log := level } := by
  unfold takeLevel at h
  split at h
  · exact ⟨none, arguments_of_update h⟩
  · split at h
    · simp [reject] at h
    · exact ⟨_, arguments_of_update h⟩

/-- Taking an occurrence keeps the libraries, and adds one where it is a library. -/
theorem libraries_of_take {occurrence : Occurrence}
    (h : progress.take occurrence = (next, none)) :
    next.arguments.libraries = progress.arguments.libraries ++
      if occurrence.opt = .library then [occurrence.value] else [] := by
  obtain ⟨opt, position, clustered, argument⟩ := occurrence
  cases opt <;> simp only [take] at h
  case help | version => simp at h
  case log =>
    obtain ⟨level, hlevel⟩ := arguments_of_takeLevel h
    simp [hlevel]
  case report | textReport =>
    obtain ⟨destination, hdestination⟩ := arguments_of_takeReport h
    simp [hdestination]
  case output | sysroot | soname | dynamicLinker => simp [arguments_of_once h]
  all_goals simp [arguments_of_update h]

/-- The libraries are the values of the library occurrences in their order. -/
theorem libraries_of_takeAll {occurrences : List Occurrence}
    (h : progress.takeAll occurrences = (next, none)) :
    next.arguments.libraries = progress.arguments.libraries ++
      (occurrences.filter fun occurrence => occurrence.opt = .library).map Occurrence.value := by
  induction occurrences generalizing progress with
  | nil =>
      obtain ⟨rfl, -⟩ := Prod.mk.inj h
      simp
  | cons occurrence rest ih =>
      unfold takeAll at h
      split at h
      · rename_i taken htaken
        rw [ih h, libraries_of_take htaken]
        by_cases hopt : occurrence.opt = .library <;> simp [hopt]
      · rename_i stopped hstopped
        simp [h] at hstopped

end Progress

/-! ## A successful parse -/

/-- `AcceptedAs host commandLine arguments` says the command line is read to its end, every
occurrence is taken, and the objects are the operands and what stands behind the end of the
options. -/
structure AcceptedAs (host : Host) (commandLine : List String) (arguments : Arguments) : Prop where
  complaint : (readingOf commandLine).complaint = none
  surplus : (readingOf commandLine).surplus = []
  objects : arguments.objects =
    (readingOf commandLine).operands ++ behindEnd commandLine
  nonempty : arguments.objects ≠ []
  taken : ∃ progress, (Progress.start host).takeAll
    (readingOf commandLine).occurrences = (progress, none) ∧
      arguments = { progress.arguments with objects := arguments.objects }

/-- A parse succeeds exactly on the command lines that are accepted. -/
theorem parse_eq_ok_iff {host : Host} {commandLine : List String} {arguments : Arguments} :
    (parse host commandLine).result = .ok arguments ↔ AcceptedAs host commandLine arguments := by
  unfold parse
  constructor
  · intro h
    simp only at h
    cases hexit : ((Progress.start host).takeAll
        (readingOf commandLine).occurrences).2 with
    | some exit => simp [hexit] at h
    | none =>
        simp only [hexit, settle] at h
        split at h
        · exact absurd h (by simp)
        split at h
        · exact absurd h (by simp)
        split at h
        · exact absurd h (by simp)
        rename_i hcomplaint hsurplus hnonempty
        obtain rfl := Except.ok.inj h
        exact ⟨hcomplaint, by simpa using hsurplus, rfl, hnonempty, _, Prod.ext rfl hexit, rfl⟩
  · intro h
    obtain ⟨hcomplaint, hsurplus, hobjects, hnonempty, progress, htaken, harguments⟩ := h
    have hsettled : (readingOf commandLine).operands ++ behindEnd commandLine ≠ [] :=
      hobjects ▸ hnonempty
    simp only [htaken, settle, hcomplaint, hsurplus, ne_eq, not_true_eq_false, if_false,
      if_neg hsettled]
    rw [harguments, hobjects]

theorem AcceptedAs.libraries_eq {host : Host} {commandLine : List String} {arguments : Arguments}
    (h : AcceptedAs host commandLine arguments) :
    arguments.libraries =
      (readingOf commandLine).libraries.map Occurrence.value := by
  obtain ⟨progress, htaken, harguments⟩ := h.taken
  rw [harguments]
  simpa [Progress.start, Arguments.initial, Reading.libraries] using
    Progress.libraries_of_takeAll htaken

end LinkDriver.CommandLine
