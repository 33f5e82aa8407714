import LinkDriver.OutputPath
import LinkDriver.Proofs.Action
import LinkDriver.Proofs.Path

/-!
# The path of the output

`settled?` is the path of the output, if it can be determined; determining it only remarks on it.
Read `absolute?_settled` last: where the working directory was removed, the output has an absolute
path unless it is `Stranded`, that is, unless it would lie in that directory.
-/

namespace LinkDriver.OutputPath

open LinkDriver.Action

variable {σ : Type} {host : HostView} {asked : Option String} {inputs : List String}
  {output : String}

/-- The path of the output, if it can be determined: the one asked for, or the default for the
inputs. -/
def settled? (host : HostView) (asked : Option String) (inputs : List String) : Option String :=
  match given? asked with
  | some path => some path
  | none =>
    match inputs with
    | [] => none
    | [input] => beside? host input
    | _ => some defaultName

/-- The default for a single input is the output, and there is nothing to remark on it. -/
theorem run_determine_beside (hasked : given? asked = none) {input : String}
    (h : beside? host input = some output) (state : σ) :
    (determine host asked [input]).run state = ⟨[], state, .ok output⟩ := by
  unfold determine
  simp only [hasked, h]
  rfl

/-- Determining the output of some inputs remarks on it at most. It fails where the default for a
single input has no absolute path. -/
theorem run_determine (host : HostView) (asked : Option String) (hinputs : inputs ≠ [])
    (state : σ) :
    (∃ path remarks, settled? host asked inputs = some path ∧
      (∀ event ∈ remarks, IsRemark event) ∧
      (determine host asked inputs).run state = ⟨remarks, state, .ok path⟩) ∨
    ∃ input, given? asked = none ∧ inputs = [input] ∧ host.absolute? input = none ∧
      (determine host asked inputs).run state =
        ⟨[], state, .error (.driver (.outputUnresolved input))⟩ := by
  unfold determine settled?
  cases hasked : given? asked with
  | some path => exact Or.inl ⟨path, [], rfl, by simp, rfl⟩
  | none =>
      match inputs with
      | [] => exact absurd rfl hinputs
      | [input] =>
          cases hbeside : beside? host input with
          | some path => exact Or.inl ⟨path, [], hbeside, by simp, by simp [hbeside]⟩
          | none =>
              exact Or.inr ⟨input, rfl, rfl, Option.map_eq_none_iff.mp hbeside, by simp [hbeside]⟩
      | _ :: _ :: _ =>
          exact Or.inl ⟨defaultName, [.log ⟨.warning, "output", _⟩], rfl, by simp [IsRemark], rfl⟩

/-! ## Outputs without an absolute path -/

/-- The output would lie in a working directory that was removed: a relative path was asked for, or
no path for several inputs. -/
def Stranded (host : HostView) (asked : Option String) (inputs : List String) : Prop :=
  host.workingDirectory = none ∧
    match given? asked with
    | some path => Path.isAbsolute path = false
    | none => 2 ≤ inputs.length

instance (host : HostView) (asked : Option String) (inputs : List String) :
    Decidable (Stranded host asked inputs) :=
  have : Decidable (match given? asked with
      | some path => Path.isAbsolute path = false
      | none => 2 ≤ inputs.length) :=
    match given? asked with
    | some path => inferInstanceAs (Decidable (Path.isAbsolute path = false))
    | none => inferInstanceAs (Decidable (2 ≤ inputs.length))
  inferInstanceAs (Decidable (_ ∧ _))

/-- A stranded output is settled on. -/
theorem Stranded.exists_settled (h : Stranded host asked inputs) :
    ∃ output, settled? host asked inputs = some output := by
  obtain ⟨-, h⟩ := h
  unfold settled?
  cases hasked : given? asked with
  | some path => exact ⟨path, rfl⟩
  | none =>
      rw [hasked] at h
      match inputs with
      | [] | [_] => exact absurd h (by simp)
      | _ :: _ :: _ => exact ⟨_, rfl⟩

/-- Only relative paths have no normal form, and only without a working directory. -/
theorem absolute?_eq_none_iff {path : String} :
    host.absolute? path = none ↔
      host.workingDirectory = none ∧ Path.isAbsolute path = false := by
  unfold HostView.absolute?
  cases Path.isAbsolute path <;> simp

/-- With a working directory, an output is settled on for any inputs. -/
theorem exists_settled (hinputs : inputs ≠ []) (hdirectory : host.workingDirectory ≠ none) :
    ∃ output, settled? host asked inputs = some output := by
  unfold settled?
  cases given? asked with
  | some path => exact ⟨path, rfl⟩
  | none =>
      match inputs with
      | [] => exact absurd rfl hinputs
      | [input] =>
          have hne : host.absolute? input ≠ none :=
            fun hnone => hdirectory (absolute?_eq_none_iff.mp hnone).1
          obtain ⟨absolute, habsolute⟩ := Option.ne_none_iff_exists'.mp hne
          exact ⟨_, congrArg (Option.map _) habsolute⟩
      | _ :: _ :: _ => exact ⟨defaultName, rfl⟩

/-- A normal form is absolute. -/
theorem isAbsolute_of_absolute? {path absolute : String}
    (h : host.absolute? path = some absolute) : Path.isAbsolute absolute = true := by
  unfold HostView.absolute? at h
  split at h
  · obtain rfl := Option.some.inj h
    exact Path.isAbsolute_normalize path
  · obtain ⟨directory, -, rfl⟩ := Option.map_eq_some_iff.mp h
    exact Path.isAbsolute_normalize _

/-- The default output of a single input has an absolute path. -/
theorem isAbsolute_of_beside? {input : String} (h : beside? host input = some output) :
    Path.isAbsolute output = true := by
  obtain ⟨absolute, habsolute, rfl⟩ := Option.map_eq_some_iff.mp h
  exact Path.isAbsolute_join (Path.isAbsolute_directory (isAbsolute_of_absolute? habsolute))

/-- The outputs that are settled on and have no absolute path are the stranded ones. -/
theorem absolute?_settled (h : settled? host asked inputs = some output) :
    host.absolute? output = none ↔ Stranded host asked inputs := by
  rw [absolute?_eq_none_iff]
  refine and_congr_right fun _ => ?_
  unfold settled? at h
  cases hasked : given? asked with
  | some path =>
      rw [hasked] at h
      obtain rfl := Option.some.inj h
      rfl
  | none =>
      rw [hasked] at h
      match inputs with
      | [] => exact absurd h (by simp)
      | [input] => exact iff_of_false (by simp [isAbsolute_of_beside? h]) (by simp)
      | _ :: _ :: _ =>
          obtain rfl := Option.some.inj h
          exact iff_of_true (by decide) (by simp)

end LinkDriver.OutputPath
