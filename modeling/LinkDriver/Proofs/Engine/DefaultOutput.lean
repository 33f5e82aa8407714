import LinkDriver.Proofs.NormalOutput
import LinkDriver.Proofs.Engine.Readiness

/-!
# The default output of a single input

The default output of a single input is made from the text of the input's path alone, while the
engine looks the path up in the file tree. Where the tree is rooted the two agree: the output lies
in the directory that holds the input, as `default_output_beside_input` states.
-/

namespace LinkDriver.Gnu

open LinkDriver.Action

variable {host : Host} {output : String} {parent : List String} {name : String}

/-- In a rooted tree, an output that is spelled in a directory is refused only where that directory
is not accessible or holds a directory of that name. -/
theorem checkOutput_of_spells (hrooted : host.tree.Rooted)
    (hparent : host.tree.isDirectoryAt parent = true)
    (h : Path.Spells output (parent ++ [name])) :
    checkOutput host output =
      if !host.tree.isWritableAt parent then .error (.refused "Permission denied")
      else if host.tree.isDirectoryAt (parent ++ [name]) then .error (.refused "Is a directory")
      else .ok () := by
  have hroot := hrooted.isDirectoryAt_root hparent
  have hnormal : Path.Spells (Path.normalize output) (parent ++ [name]) :=
    h.follow_eq ▸ Path.spells_normalize output
  have habsolute : host.view.absolute? output = some (Path.normalize output) := by
    rw [HostView.absolute?, if_pos h.isAbsolute]
  have hdirectory : host.node? (Path.directory (Path.normalize output)) = host.tree.node? parent :=
    Host.node?_of_spells hrooted hroot hnormal.directory
  have hexists : host.isDirectory (Path.directory (Path.normalize output)) = true := by
    rw [Host.isDirectory, hdirectory]
    exact hparent
  have hwritable : host.isWritable (Path.directory (Path.normalize output)) =
      host.tree.isWritableAt parent := by
    rw [Host.isWritable, hdirectory]
    rfl
  have htaken : host.isDirectory output = host.tree.isDirectoryAt (parent ++ [name]) := by
    rw [Host.isDirectory, Host.node?_of_spells hrooted hroot h]
    rfl
  unfold checkOutput
  rw [habsolute]
  simp only [Host.view_isDirectory, Host.view_isWritable, hexists, hwritable, htaken,
    Bool.not_true, Bool.false_eq_true, if_false]

/-- In a rooted tree, an input that is accepted leads to an entry of a directory. -/
theorem exists_entry_of_accepted (hrooted : host.tree.Rooted) {input : String} {state : State}
    (haccepted : ((addObject host input).run state).result = .ok ()) :
    ∃ start parent name, host.start? input = some start ∧
      Path.follow start input = parent ++ [name] ∧
      host.find? input = some (parent ++ [name]) ∧ host.tree.isDirectoryAt parent = true := by
  have hfile : host.isFile input = true := by
    cases hcheck : checkObject host input with
    | ok => exact (checkObject_eq_ok_iff.mp hcheck).1
    | error failure =>
        rw [addObject, hcheck] at haccepted
        exact absurd haccepted (by simp [run_bind_error])
  obtain ⟨place, hfind⟩ := Host.find?_of_isFile hfile
  have hleaf : host.tree.isDirectoryAt place = false := by
    rw [Host.isFile, Host.node?, hfind, Option.bind_some] at hfile
    unfold FileTree.isDirectoryAt
    cases hnode : host.tree.node? place with
    | none => rfl
    | some node =>
        have hkind : node.kind = .regular := by simpa [hnode] using hfile
        simp [hkind]
  obtain ⟨start, hstart, rfl⟩ := Host.eq_follow_of_find? hfind
  have hwalk : host.tree.walk start (Path.components input) = some (Path.follow start input) := by
    unfold Host.find? at hfind
    split at hfind
    · exact absurd hfind (by simp)
    · rwa [hstart] at hfind
  have hcomponents : Path.components input ≠ [] := by
    simpa [Path.components] using Path.splitSlashes_ne_nil input.toList
  obtain ⟨parent, name, hplace, hparent⟩ := hrooted.exists_parent hcomponents hwalk hleaf
  exact ⟨start, parent, name, hstart, hplace, hplace ▸ hfind, hparent⟩

/-- In a rooted tree, the default output for a single input that the engine accepts is `a.out` in
the directory that holds the input. So it is refused only where that directory is not accessible or
holds a directory `a.out`. -/
theorem default_output_beside_input (hrooted : host.tree.Rooted) {input : String} {state : State}
    (haccepted : ((addObject host input).run state).result = .ok ()) :
    ∃ parent name output,
      host.find? input = some (parent ++ [name]) ∧
      (∀ (σ : Type) (before : σ),
        (OutputPath.determine host (some "") [input]).run before = ⟨[], before, .ok output⟩) ∧
      host.find? (Path.directory output) = some parent ∧
      Path.lastPart output = OutputPath.defaultName ∧
      ∀ before, (setOutput host output).run before =
        if !host.tree.isWritableAt parent then
          ⟨[], before, .error (.refused "Permission denied")⟩
        else if host.tree.isDirectoryAt (parent ++ [OutputPath.defaultName]) then
          ⟨[], before, .error (.refused "Is a directory")⟩
        else ⟨[], { before with output := some output }, .ok ()⟩ := by
  obtain ⟨start, parent, name, hstart, hplace, hfind, hparent⟩ :=
    exists_entry_of_accepted hrooted haccepted
  obtain ⟨absolute, habsolute, hspells⟩ := Host.exists_spelled hstart
  rw [hplace] at hspells
  have hdirectory : Path.Spells (Path.directory absolute) parent := hspells.directory
  have houtput := hdirectory.join OutputPath.isName_defaultName
  have hbeside : OutputPath.beside? host input =
      some (Path.join (Path.directory absolute) OutputPath.defaultName) := by
    rw [OutputPath.beside?, habsolute]
    rfl
  refine ⟨parent, name, _, hfind, ?_, ?_, houtput.lastPart_eq, ?_⟩
  · intro σ before
    exact OutputPath.run_determine_beside rfl hbeside before
  · rw [Host.find?_of_spells hrooted (hrooted.isDirectoryAt_root hparent) houtput.directory,
      if_pos (FileTree.isSome_of_isDirectoryAt hparent)]
  · intro before
    unfold setOutput
    rw [checkOutput_of_spells hrooted hparent houtput]
    split
    · rfl
    · split <;> rfl

/-- The default output for an input with steps up, steps in place and empty components in its path
is the one next to the file to which the path leads. -/
theorem default_output_beside_input_climbing :
    let host := (Host.new (some "/work")).withFile ["work", "sub", "a.o"]
    let input := "..//work/./sub/../sub/a.o"
    host.tree.Rooted ∧ ((addObject host input).run .new).result = .ok () ∧
      host.find? input = some ["work", "sub", "a.o"] ∧
      ((OutputPath.determine host (some "") [input]).run ()).result = .ok "/work/sub/a.out" ∧
      host.find? (Path.directory "/work/sub/a.out") = some ["work", "sub"] ∧
      ((setOutput host "/work/sub/a.out").run .new).result = .ok () := by
  intro host input
  have hrooted : host.tree.Rooted :=
    Host.rooted_withFile (Host.rooted_new _) (by decide +kernel) (by decide +kernel)
  have haccepted : ((addObject host input).run .new).result = .ok () := by decide +kernel
  have houtput : ((OutputPath.determine host (some "") [input]).run ()).result =
      .ok "/work/sub/a.out" := by
    decide +kernel
  obtain ⟨parent, name, output, hfind, hdetermined, hdirectory, -, hset⟩ :=
    default_output_beside_input hrooted haccepted
  have hplace : host.find? input = some ["work", "sub", "a.o"] := by decide +kernel
  obtain rfl : output = "/work/sub/a.out" := by
    have hresult := hdetermined Unit ()
    rw [hresult] at houtput
    exact Except.ok.inj houtput
  obtain rfl : parent = ["work", "sub"] := by
    have hsame : parent ++ [name] = ["work", "sub"] ++ ["a.o"] :=
      Option.some.inj (hfind.symm.trans hplace)
    exact (List.append_inj' hsame rfl).1
  refine ⟨hrooted, haccepted, hplace, houtput, hdirectory, ?_⟩
  rw [hset, if_neg (by decide +kernel), if_neg (by decide +kernel)]

end LinkDriver.Gnu
