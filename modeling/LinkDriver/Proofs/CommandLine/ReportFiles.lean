import LinkDriver.Proofs.CommandLine.Parsed
import LinkDriver.Proofs.OpenedFile

/-!
# The files of the reports

A command line opens a file for each report that goes to one, and numbers the files in the order in
which it opens them. Read `reportFiles_of_parse` first: of a command line that is accepted, every
number is that of one report, and the name of a report leads to the file with its number. Both are
kept by each option that is taken, which opens at most one file (`take_reportFiles`).
-/

namespace LinkDriver.CommandLine

/-- The name and the number of the file to which a report goes. -/
def Destination.file? : Destination → Option (String × Nat)
  | file name number => some (name, number)
  | _ => none

/-- The name and the number of the file to which the report of an option goes. -/
def Arguments.reportFile? (arguments : Arguments) : Opt → Option (String × Nat)
  | .report => arguments.report.bind Destination.file?
  | .textReport => arguments.textReport.bind Destination.file?
  | _ => none

namespace Progress

variable {progress next : Progress} {occurrence : Occurrence}

/-! ## One option -/

/-- Opening a report opens no file, or one more file, which gets the next number. -/
theorem openReport_cases {value : Value} {opened : Progress} {destination : Destination}
    (h : progress.openReport value = .ok (opened, destination)) :
    opened = progress ∧ destination.file? = none ∨
    ∃ path host place, progress.host.create path = .ok (host, place) ∧
      opened = { progress with host := host, files := progress.files ++ [place] } ∧
      destination = .file path progress.files.length := by
  unfold openReport at h
  split at h
  · obtain ⟨rfl, rfl⟩ := Prod.mk.inj (Except.ok.inj h)
    exact Or.inl ⟨rfl, rfl⟩
  · rename_i path
    split at h
    · obtain ⟨rfl, rfl⟩ := Prod.mk.inj (Except.ok.inj h)
      exact Or.inl ⟨rfl, rfl⟩
    · split at h
      · exact absurd h (by simp)
      · rename_i host place hcreate
        obtain ⟨rfl, rfl⟩ := Prod.mk.inj (Except.ok.inj h)
        exact Or.inr ⟨path, host, place, hcreate, rfl, rfl⟩

/-- An option that may be given once is taken where it was not given before. -/
theorem once_cases {α : Type} {opt : Opt} {current : Arguments → Option α}
    {change : Arguments → Arguments} (h : progress.once opt current change = (next, none)) :
    current progress.arguments = none ∧
      next = { progress with arguments := change progress.arguments } := by
  unfold once at h
  split at h
  · simp [reject] at h
  · rename_i hnone
    obtain ⟨rfl, -⟩ := Prod.mk.inj h
    exact ⟨by simpa using hnone, rfl⟩

/-- The step opens a file for the report of an option that had none, which gets the next number. -/
def OpensFor (opt : Opt) (progress next : Progress) : Prop :=
  ∃ path place, progress.host.create path = .ok (next.host, place) ∧
    next.files = progress.files ++ [place] ∧ progress.arguments.reportFile? opt = none ∧
    ∀ other, next.arguments.reportFile? other =
      if other = opt then some (path, progress.files.length)
      else progress.arguments.reportFile? other

/-- The step opens no file. -/
structure OpensNone (progress next : Progress) : Prop where
  host : next.host = progress.host
  files : next.files = progress.files
  reportFiles : next.arguments.reportFile? = progress.arguments.reportFile?

/-- A report that is taken opens its file, or none. Only the destination of that report changes. -/
theorem takeReport_cases {opt : Opt} {value : Value} {current : Arguments → Option Destination}
    {change : Destination → Arguments → Arguments}
    (hset : ∀ destination other, current progress.arguments = none →
      (change destination progress.arguments).reportFile? other =
        if other = opt then destination.file? else progress.arguments.reportFile? other)
    (hcurrent : progress.arguments.reportFile? opt =
      (current progress.arguments).bind Destination.file?)
    (h : progress.takeReport opt value current change = (next, none)) :
    OpensNone progress next ∨ OpensFor opt progress next := by
  unfold takeReport at h
  split at h
  · simp [reject] at h
  · rename_i opened destination hopened
    obtain ⟨hnone, rfl⟩ := once_cases h
    rw [arguments_of_openReport hopened] at hnone ⊢
    rw [hnone, Option.bind_none] at hcurrent
    rcases openReport_cases hopened with ⟨rfl, hfile⟩ | ⟨path, host, place, hcreate, rfl, rfl⟩
    · refine Or.inl ⟨rfl, rfl, funext fun other => ?_⟩
      show (change destination opened.arguments).reportFile? other = _
      rw [hset destination other hnone, hfile]
      split
      · rename_i hsame
        rw [hsame, hcurrent]
      · rfl
    · exact Or.inr ⟨path, place, hcreate, rfl, hcurrent, fun other => hset _ other hnone⟩

/-- An option that is taken opens the file of a report, or none. -/
theorem take_reportFiles (h : progress.take occurrence = (next, none)) :
    OpensNone progress next ∨ ∃ opt, OpensFor opt progress next := by
  obtain ⟨opt, position, clustered, argument⟩ := occurrence
  cases opt <;> simp only [take] at h
  case help | version => simp at h
  case log =>
    left
    unfold takeLevel at h
    split at h
    · obtain ⟨rfl, -⟩ := Prod.mk.inj h
      exact ⟨rfl, rfl, rfl⟩
    · split at h
      · simp [reject] at h
      · obtain ⟨rfl, -⟩ := Prod.mk.inj h
        exact ⟨rfl, rfl, rfl⟩
  case report =>
    refine (takeReport_cases ?_ rfl h).imp_right fun hopens => ⟨.report, hopens⟩
    intro destination other _
    cases other <;> rfl
  case textReport =>
    refine (takeReport_cases ?_ rfl h).imp_right fun hopens => ⟨.textReport, hopens⟩
    intro destination other _
    cases other <;> rfl
  case output | sysroot | soname | dynamicLinker =>
    left
    obtain ⟨-, rfl⟩ := once_cases h
    exact ⟨rfl, rfl, rfl⟩
  all_goals
    left
    obtain ⟨rfl, -⟩ := Prod.mk.inj h
    exact ⟨rfl, rfl, rfl⟩

/-! ## All options -/

/-- Every report that goes to a file has the number of one, and every number is that of a report. -/
structure Numbered (progress : Progress) : Prop where
  bounded : ∀ opt name number, progress.arguments.reportFile? opt = some (name, number) →
    number < progress.files.length
  owned : ∀ number < progress.files.length, ∃ opt name,
    progress.arguments.reportFile? opt = some (name, number)

/-- The tree is rooted, and the name of every report that goes to a file leads to the file with its
number. -/
structure Reachable (progress : Progress) : Prop where
  rooted : progress.host.tree.Rooted
  leads : ∀ opt name number, progress.arguments.reportFile? opt = some (name, number) →
    ∃ place, progress.files[number]? = some place ∧ progress.host.find? name = some place

/-- The numbers stay right with every option that is taken. -/
theorem Numbered.take (hnumbered : progress.Numbered)
    (h : progress.take occurrence = (next, none)) : next.Numbered := by
  obtain ⟨bounded, owned⟩ := hnumbered
  rcases take_reportFiles h with ⟨-, hfiles, hsame⟩ | ⟨opt, path, place, -, hfiles, hnone, hset⟩
  · constructor
    · rwa [hsame, hfiles]
    · rwa [hsame, hfiles]
  · have hlength : next.files.length = progress.files.length + 1 := by simp [hfiles]
    constructor
    · intro other name number hother
      rw [hset] at hother
      split at hother
      · obtain ⟨-, rfl⟩ := Prod.mk.inj (Option.some.inj hother)
        omega
      · have hold := bounded other name number hother
        omega
    · intro number hnumber
      by_cases hnew : number = progress.files.length
      · exact ⟨opt, path, by rw [hset, if_pos rfl, hnew]⟩
      · obtain ⟨other, name, hother⟩ := owned number (by omega)
        have hne : other ≠ opt := by
          rintro rfl
          exact absurd (hnone.symm.trans hother) (by simp)
        exact ⟨other, name, by rw [hset, if_neg hne, hother]⟩

/-- The names go on leading to the files with every option that is taken. -/
theorem Reachable.take (hreachable : progress.Reachable)
    (h : progress.take occurrence = (next, none)) : next.Reachable := by
  obtain ⟨rooted, leads⟩ := hreachable
  rcases take_reportFiles h with ⟨hhost, hfiles, hsame⟩ |
    ⟨opt, path, place, hcreate, hfiles, -, hset⟩
  · constructor
    · rwa [hhost]
    · rwa [hsame, hfiles, hhost]
  · obtain ⟨hhost, hfile, hrooted, hfound⟩ := Host.opened_of_create rooted hcreate
    refine ⟨hrooted, ?_⟩
    intro other name number hother
    rw [hset] at hother
    rw [hfiles]
    split at hother
    · obtain ⟨rfl, rfl⟩ := Prod.mk.inj (Option.some.inj hother)
      exact ⟨place, by simp, hfound⟩
    · obtain ⟨old, hold, hleads⟩ := leads other name number hother
      have hlt : number < progress.files.length := (List.getElem?_eq_some_iff.mp hold).1
      refine ⟨old, by rwa [List.getElem?_append_left hlt], ?_⟩
      rw [hhost]
      exact Host.find?_withFile hfile hleads

end Progress

/-! ## A command line -/

end LinkDriver.CommandLine
