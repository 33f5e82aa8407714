import LinkDriver.Proofs.OpenedFile
import LinkDriver.Proofs.Engine.Readiness

/-!
# Outputs that do not exist yet

The engine checks a new output by its normal form, in which `..` takes the name before it away; the
system follows the path as it stands, and so only through directories that exist. Read
`new_output_taken_iff`: every path at which a file can be made is taken, and beyond those exactly
the paths that are misread, whose normal form lies in a directory that may be written, but which do
not lead to an entry of any directory.
-/

namespace LinkDriver

open FileTree

namespace Host

/-- The path leads to an entry of an existing directory, be the entry there or not. -/
def LeadsToEntry (host : Host) (path : String) : Prop :=
  Path.lastPart path ≠ "" ∧ ∃ directory, host.parent? path = some directory ∧
    host.tree.isDirectoryAt directory = true

/-- In a rooted tree, where nothing stands at a path that leads to an entry, the entry is missing in
the directory above the place that the path spells. -/
theorem LeadsToEntry.parent?_eq {host : Host} {path : String} {start : List String}
    (h : host.LeadsToEntry path) (hrooted : host.tree.Rooted) (hnew : host.find? path = none)
    (hstart : host.start? path = some start) :
    host.parent? path = some (Path.follow start path).dropLast := by
  obtain ⟨hlast, directory, hparent, hdirectory⟩ := h
  rw [find?_of_parent? hparent hlast] at hnew
  obtain ⟨henter, -⟩ := enter_missing hrooted hdirectory hlast hnew
  rw [follow_of_parent? hstart hparent, henter, List.dropLast_concat, hparent]

end Host

namespace Gnu

open LinkDriver.Action

variable {host : Host} {path directory : String}

/-- Setting the output succeeds exactly if the output is ready. -/
theorem result_setOutput_iff (before : State) :
    ((setOutput host path).run before).result = .ok () ↔ OutputReady host path := by
  rw [← checkOutput_eq_ok_iff]
  unfold setOutput
  cases hcheck : checkOutput host path with
  | error failure => simp [run_bind_error]
  | ok => simp [run_bind_ok]

/-- In a rooted tree, a new output is ready exactly if a directory that may be written stands above
the place that its path spells. -/
theorem outputReady_iff_of_new {start : List String} (hrooted : host.tree.Rooted)
    (hroot : host.tree.isDirectoryAt [] = true) (hnew : host.find? path = none)
    (hstart : host.start? path = some start) :
    OutputReady host path ↔
      host.tree.isDirectoryAt (Path.follow start path).dropLast = true ∧
        host.tree.isWritableAt (Path.follow start path).dropLast = true := by
  obtain ⟨absolute, habsolute, hspells⟩ := Host.exists_spelled hstart
  have hdirectory : host.node? (Path.directory absolute) =
      host.tree.node? (Path.follow start path).dropLast :=
    Host.node?_of_spells hrooted hroot hspells.directory_dropLast
  have hmissing : host.isDirectory path = false := by
    rw [Host.isDirectory, Host.node?, hnew]
    rfl
  unfold OutputReady
  rw [habsolute]
  simp only [Option.some.injEq, exists_eq_left', Host.view_isDirectory, Host.view_isWritable,
    hmissing, and_true]
  unfold Host.isDirectory Host.isWritable
  rw [hdirectory]
  rfl

/-- In a rooted tree with an existing working directory, a path at which nothing stands is taken as
the output exactly if a directory that may be written stands above the place that its normal form
spells. So it is taken if a file can be made there, and only then unless the path does not lead to
an entry of a directory. A path of names without a step up that is taken always does. -/
theorem new_output_taken_iff (hrooted : host.tree.Rooted)
    (hworking : host.workingDirectory = some directory)
    (hexists : host.tree.isDirectoryAt (Path.resolve (Path.components directory)) = true)
    (hnew : host.find? path = none) (before : State) :
    ∃ start, host.start? path = some start ∧
      let above := (Path.follow start path).dropLast
      let taken := ((setOutput host path).run before).result = .ok ()
      ((∃ opened place, host.create path = .ok (opened, place)) ↔ host.Creatable path) ∧
        (taken ↔ host.tree.isDirectoryAt above = true ∧ host.tree.isWritableAt above = true) ∧
        (host.Creatable path → taken) ∧
        ((taken ↔ host.Creatable path) ↔ (taken → host.LeadsToEntry path)) ∧
        (Path.IsName (Path.lastPart path) → ".." ∉ Path.components path →
          (taken ↔ host.Creatable path)) := by
  obtain ⟨start, hstart⟩ := Host.exists_start hworking path
  refine ⟨start, hstart, ?_⟩
  intro above taken
  have htaken : taken ↔ host.tree.isDirectoryAt above = true ∧
      host.tree.isWritableAt above = true :=
    (result_setOutput_iff before).trans
      (outputReady_iff_of_new hrooted (hrooted.isDirectoryAt_root hexists) hnew hstart)
  have hcreatable : host.Creatable path → taken := by
    rintro ⟨hlast, parent, hparent, hdirectory, haccessible⟩
    have hentry : host.LeadsToEntry path := ⟨hlast, parent, hparent, hdirectory⟩
    obtain rfl : parent = above :=
      Option.some.inj (hparent.symm.trans (hentry.parent?_eq hrooted hnew hstart))
    exact htaken.mpr ⟨hdirectory, haccessible⟩
  have hexact : (taken ↔ host.Creatable path) ↔ (taken → host.LeadsToEntry path) := by
    constructor
    · intro hsame htake
      obtain ⟨hlast, parent, hparent, hdirectory, -⟩ := hsame.mp htake
      exact ⟨hlast, parent, hparent, hdirectory⟩
    · intro hentry
      refine ⟨fun htake => ?_, hcreatable⟩
      exact ⟨(hentry htake).1, above, (hentry htake).parent?_eq hrooted hnew hstart,
        htaken.mp htake⟩
  refine ⟨Host.exists_create_iff hnew, htaken, hcreatable, hexact, fun hname hdown => ?_⟩
  refine hexact.mpr fun htake => ?_
  have hdirectory := (htaken.mp htake).1
  exact ⟨hname.ne_empty, above, Host.parent?_of_down hrooted hstart hdown hname hdirectory,
    hdirectory⟩

/-- A new output behind a step up from an existing directory can be made, and is taken. -/
theorem new_output_taken_beside_directory :
    let host := (Host.new (some "/work")).withFile ["work", "sub", "a.o"]
    host.tree.Rooted ∧ host.workingDirectory = some "/work" ∧
      host.tree.isDirectoryAt (Path.resolve (Path.components "/work")) = true ∧
      host.find? "sub/../out" = none ∧ host.LeadsToEntry "sub/../out" ∧
      (((setOutput host "sub/../out").run .new).result = .ok () ↔ host.Creatable "sub/../out") ∧
      host.Creatable "sub/../out" := by
  intro host
  have hrooted : host.tree.Rooted :=
    Host.rooted_withFile (Host.rooted_new _) (by decide +kernel) (by decide +kernel)
  have hexists : host.tree.isDirectoryAt (Path.resolve (Path.components "/work")) = true := by
    decide +kernel
  have hnew : host.find? "sub/../out" = none := by decide +kernel
  have hparent : host.parent? "sub/../out" = some ["work"] := by decide +kernel
  have hlast : Path.lastPart "sub/../out" ≠ "" := by decide +kernel
  have hentry : host.LeadsToEntry "sub/../out" := ⟨hlast, ["work"], hparent, hexists⟩
  obtain ⟨start, -, -, -, -, hexact, -⟩ := new_output_taken_iff hrooted rfl hexists hnew .new
  exact ⟨hrooted, rfl, hexists, hnew, hentry, hexact.mpr fun _ => hentry,
    hlast, ["work"], hparent, hexists, by decide +kernel⟩

/-- A new output behind a step up from a missing directory is taken, but cannot be made. -/
theorem new_output_taken_behind_missing_directory :
    let host := Host.new (some "/work")
    host.tree.Rooted ∧ host.workingDirectory = some "/work" ∧
      host.tree.isDirectoryAt (Path.resolve (Path.components "/work")) = true ∧
      host.find? "gone/../out" = none ∧
      ((setOutput host "gone/../out").run .new).result = .ok () ∧
      ¬ host.Creatable "gone/../out" := by
  intro host
  have hnone : host.parent? "gone/../out" = none := by decide +kernel
  refine ⟨Host.rooted_new _, rfl, by decide +kernel, by decide +kernel, by decide +kernel, ?_⟩
  rintro ⟨-, parent, hparent, -⟩
  exact absurd (hnone.symm.trans hparent) (by simp)

end Gnu

end LinkDriver
