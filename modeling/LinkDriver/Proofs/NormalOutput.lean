import LinkDriver.Proofs.FileTree
import LinkDriver.Proofs.OutputPath

/-!
# The default output is in normal form

The default output of a single input is joined from the directory part of the input's absolute path
and a name. Read `default_output_in_normal_form`: whatever the input is, the outcome is a normal
form once more, which begins at the root, changes by no further normalization, and has the input's
directory part.
-/

namespace LinkDriver

namespace Path

/-- `NormalFile path name` says the path is the normal form of a file of that name: it is absolute,
and its own normal form from every working directory. Behind the one or two slashes with which it
begins stand only components that name something, and the last of them is the name. -/
structure NormalFile (path name : String) : Prop where
  absolute : isAbsolute path = true
  fixed : ∀ host : HostView, host.absolute? path = some path
  names : ∃ names, (components path = "" :: names ∨ components path = "" :: "" :: names) ∧
    names.getLast? = some name ∧ ∀ other ∈ names, other ≠ "" ∧ other ≠ "." ∧ other ≠ ".."

/-- A path that spells an entry of some place is the normal form of a file. -/
theorem Spells.normalFile {path name : String} {place : List String}
    (h : Spells path (place ++ [name])) : NormalFile path name where
  absolute := h.isAbsolute
  fixed host := by rw [HostView.absolute?, if_pos h.isAbsolute, h.normalize_eq]
  names := by
    refine ⟨place ++ [name], h.components_eq, List.getLast?_concat, fun other hmem => ?_⟩
    have hother := h.names other hmem
    exact ⟨hother.ne_empty, hother.ne_dot, hother.ne_dots⟩

end Path

namespace OutputPath

variable {host : HostView} {directory : String}

theorem isName_defaultName : Path.IsName defaultName := by
  constructor <;> decide

/-- With a working directory, the default output of a single input, whatever its path, is the normal
form of a file `a.out`. Its directory part is that of the input's absolute path. -/
theorem default_output_in_normal_form (hdirectory : host.workingDirectory = some directory)
    (input : String) :
    ∃ absolute output, host.absolute? input = some absolute ∧
      (∀ (σ : Type) (before : σ),
        (determine host (some "") [input]).run before = ⟨[], before, .ok output⟩) ∧
      Path.NormalFile output defaultName ∧ Path.lastPart output = defaultName ∧
      Path.directory output = Path.directory absolute := by
  -- Only the working directory counts, so a host with an empty tree does as well.
  have hworking : (Host.mk .empty host.workingDirectory).workingDirectory = some directory :=
    hdirectory
  obtain ⟨start, hstart⟩ := Host.exists_start hworking input
  obtain ⟨absolute, hspelled, hspells⟩ := Host.exists_spelled hstart
  have habsolute : host.absolute? input = some absolute := hspelled
  have hparent := hspells.directory_dropLast
  have houtput := hparent.join isName_defaultName
  have hbeside : beside? host input =
      some (Path.join (Path.directory absolute) defaultName) := by
    rw [beside?, habsolute]
    rfl
  exact ⟨absolute, _, habsolute, fun σ before => run_determine_beside rfl hbeside before,
    houtput.normalFile, houtput.lastPart_eq, hparent.directory_join isName_defaultName⟩

/-- Two slashes at the beginning of an input are kept, and steps up end at the root. -/
theorem default_output_in_normal_form_of_two_slashes :
    let host := (Host.new (some "/work")).view
    host.workingDirectory = some "/work" ∧
      host.absolute? "//usr/../..//lib/.//m.o/.." = some "//lib" ∧
      ((determine host (some "") ["//usr/../..//lib/.//m.o/.."]).run ()).result = .ok "//a.out" ∧
      Path.NormalFile "//a.out" defaultName ∧ Path.directory "//a.out" = "//" := by
  intro host
  have hdirectory : host.workingDirectory = some "/work" := rfl
  have habsolute : host.absolute? "//usr/../..//lib/.//m.o/.." = some "//lib" := by decide +kernel
  have houtput : ((determine host (some "") ["//usr/../..//lib/.//m.o/.."]).run ()).result =
      .ok "//a.out" := by
    decide +kernel
  obtain ⟨absolute, output, hsame, hdetermined, hnormal, -, hparent⟩ :=
    default_output_in_normal_form hdirectory "//usr/../..//lib/.//m.o/.."
  obtain rfl : absolute = "//lib" := Option.some.inj (hsame.symm.trans habsolute)
  obtain rfl : output = "//a.out" := by
    rw [hdetermined Unit ()] at houtput
    exact Except.ok.inj houtput
  have hslashes : Path.directory "//lib" = "//" := by decide +kernel
  exact ⟨hdirectory, habsolute, houtput, hnormal, hparent.trans hslashes⟩

end OutputPath

end LinkDriver
