import LinkDriver.Engine.Gnu
import LinkDriver.Proofs.Action

/-!
# What becomes of a command

An engine hands the command of a link to the system. `Handed` lists the ways in which that can end;
read `handed_runCommand` first. In two of them a fault leaves the engine: the linker's output cannot
be decoded, or the system does not take the command. Of the second the words of the command decide
alone, so a `LinkerRun` can become of a command only if it `Befits` the command.
-/

namespace LinkDriver

open LinkDriver.Action

/-- Why the system does not take a command, if it does not: the program is no text, or the null
character stands in a word. -/
def Command.rejection? (command : Command) : Option Rejection :=
  if command.program = .blank then some .blankProgram
  else if ∃ word ∈ command.program.textOrEmpty :: command.arguments, '\x00' ∈ word.toList then
    some .nullCharacter
  else none

namespace Gnu

namespace LinkerRun

/-- The linker was started and ended with code 0. -/
def Succeeded : LinkerRun → Prop
  | started (.decoded code _ _) _ => code = 0
  | started (.undecodable _) _ | unstartable _ | rejected _ => False

/-- What the linker wrote can be decoded, if there was anything. -/
def Decodable : LinkerRun → Prop
  | started (.undecodable _) _ => False
  | started (.decoded _ _ _) _ | unstartable _ | rejected _ => True

/-- Why the command was not taken, if it was not. -/
def rejection? : LinkerRun → Option Rejection
  | rejected rejection => some rejection
  | started _ _ | unstartable _ => none

/-- The fault that leaves the engine, if one does. -/
def fault? : LinkerRun → Option Fault
  | started (.undecodable detail) _ => some (.undecodable detail)
  | rejected rejection => some (.rejected rejection)
  | started (.decoded _ _ _) _ | unstartable _ => none

/-- This can become of the command: it is taken exactly if the system takes such commands. -/
def Befits (ran : LinkerRun) (command : Command) : Prop :=
  ran.rejection? = command.rejection?

variable {ran : LinkerRun} {command : Command}

theorem fault?_of_succeeded (h : ran.Succeeded) : ran.fault? = none := by
  match ran, h with
  | started (.decoded _ _ _) _, _ => rfl

theorem rejection?_of_fault?_eq_none (h : ran.fault? = none) : ran.rejection? = none := by
  match ran, h with
  | started (.decoded _ _ _) _, _ | unstartable _, _ => rfl

/-- No fault leaves the engine exactly if the command was taken and the output can be decoded. -/
theorem fault?_eq_none_iff : ran.fault? = none ↔ ran.rejection? = none ∧ ran.Decodable := by
  match ran with
  | started (.decoded _ _ _) _ | started (.undecodable _) _ | unstartable _ | rejected _ =>
      simp [fault?, rejection?, Decodable]

/-- Of a command that the system takes, no fault comes exactly if the output can be decoded; of any
other one a fault always comes. -/
theorem Befits.fault?_eq_none_iff (h : ran.Befits command) :
    ran.fault? = none ↔ command.rejection? = none ∧ ran.Decodable := by
  rw [LinkerRun.fault?_eq_none_iff, h]

end LinkerRun

/-- What handing a command to the system ends with. What a linker that was started notes comes
behind its start. -/
inductive Handed (ran : LinkerRun) (command : Command) (state : State) :
    Outcome State CallFailure Unit → Prop where
  | succeeded {notes} : ran.Succeeded → (∀ event ∈ notes, IsNote event) →
      Handed ran command state ⟨.start command :: notes, state, .ok ()⟩
  | refused {notes detail} : ¬ ran.Succeeded → ran.fault? = none →
      (∀ event ∈ notes, IsNote event) → detail ≠ "" →
      Handed ran command state ⟨.start command :: notes, state, .error (.refused detail)⟩
  | undecodable {notes detail} : ran.fault? = some (.undecodable detail) → ran.rejection? = none →
      (∀ event ∈ notes, IsNote event) →
      Handed ran command state
        ⟨.start command :: notes, state, .error (.fault (.undecodable detail))⟩
  | rejected {rejection} : ran = .rejected rejection →
      Handed ran command state ⟨[], state, .error (.fault (.rejected rejection))⟩

variable {ran : LinkerRun} {command : Command} {state : State}

/-- A refusal always has something to say: the linker's own words, or else how it ended. -/
theorem exitDetail_ne_empty (program : Value) (code : Int) (errors : String) :
    (given? (some (Text.strip errors))).getD
      (program.display ++ " exited with code " ++ toString code) ≠ "" := by
  cases hgiven : given? (some (Text.strip errors)) with
  | some words =>
      obtain ⟨-, hwords⟩ : Text.strip errors = words ∧ words ≠ "" := by
        simpa [given?, Option.filter_eq_some_iff] using hgiven
      exact hwords
  | none => simp

/-- A linker whose output can be decoded is told of in notes, and ends a call well with code 0 and
by a refusal with any other one. -/
theorem run_tellExit_decoded (program : Value) (code : Int) (output errors : String)
    (state : State) :
    ∃ notes result, (tellExit program (.decoded code output errors)).run state =
        ⟨notes, state, result⟩ ∧
      (∀ event ∈ notes, IsNote event) ∧
      (code = 0 ∧ result = .ok () ∨
        code ≠ 0 ∧ ∃ detail, result = .error (.refused detail) ∧ detail ≠ "") := by
  have hdetail := exitDetail_ne_empty program code errors
  simp only [tellExit]
  split <;> split
  · exact ⟨[.log _], .error (.refused _), rfl, by simp [IsNote], Or.inr ⟨‹_›, _, rfl, hdetail⟩⟩
  · exact ⟨[.log _], .ok (), rfl, by simp [IsNote], Or.inl ⟨Decidable.not_not.mp ‹_›, rfl⟩⟩
  · exact ⟨[], .error (.refused _), rfl, by simp, Or.inr ⟨‹_›, _, rfl, hdetail⟩⟩
  · exact ⟨[], .ok (), rfl, by simp, Or.inl ⟨Decidable.not_not.mp ‹_›, rfl⟩⟩

/-- The files that a linker wrote are told of in notes. -/
theorem run_written (written : List (List String × String)) (state : State) :
    ((written.forM fun file => Action.emit (.wrote file.1 file.2)) : EngineAction Unit).run state =
      ⟨written.map fun file => .wrote file.1 file.2, state, .ok ()⟩ := by
  induction written with
  | nil => rfl
  | cons file rest ih =>
      show (Action.emit (.wrote file.1 file.2) >>= fun _ =>
        (rest.forM fun file => Action.emit (.wrote file.1 file.2)) : EngineAction Unit).run state = _
      rw [run_bind_ok (a := ()) rfl, run_emit, ih]
      rfl

/-- A command that is handed to the system ends in one of the listed ways. -/
theorem handed_runCommand (ran : LinkerRun) (command : Command) (state : State) :
    Handed ran command state ((runCommand ran command).run state) := by
  cases ran with
  | rejected rejection => exact .rejected rfl
  | unstartable reason =>
      have hnone : ∀ event ∈ ([] : List Event), IsNote event := by simp
      exact .refused (by simp [LinkerRun.Succeeded]) rfl hnone (by simp)
  | started exit written =>
      have hfiles : ∀ event ∈ written.map fun file => Event.wrote file.1 file.2, IsNote event :=
        List.forall_mem_map.mpr fun _ _ => trivial
      unfold runCommand
      rw [run_bind_ok (a := ()) rfl, run_bind_ok (a := ()) (by rw [run_written]), run_emit,
        run_written]
      cases exit with
      | undecodable detail =>
          have hall := List.forall_mem_append.mpr ⟨hfiles, List.forall_mem_nil IsNote⟩
          exact .undecodable rfl rfl hall
      | decoded code output errors =>
          obtain ⟨notes, result, hrun, hnotes, hresult⟩ :=
            run_tellExit_decoded command.program code output errors state
          have hall := List.forall_mem_append.mpr ⟨hfiles, hnotes⟩
          simp only [hrun]
          rcases hresult with ⟨hcode, rfl⟩ | ⟨hcode, detail, rfl, hdetail⟩
          · exact .succeeded hcode hall
          · exact .refused hcode rfl hall hdetail

namespace Handed

variable {outcome : Outcome State CallFailure Unit} (h : Handed ran command state outcome)

include h

theorem state_eq : outcome.state = state := by
  cases h <;> rfl

/-- The command is started unless it is not taken, and nothing else is done. -/
theorem deeds_eq : deeds outcome = if ran.rejection? = none then [.start command] else [] := by
  have hstarted : ∀ {notes : List Event}, (∀ event ∈ notes, IsNote event) →
      (Event.start command :: notes).filter (¬ IsNote ·) = [.start command] := by
    intro notes hnotes
    rw [List.filter_cons_of_pos (by simp [IsNote]), filter_notes hnotes]
  cases h with
  | succeeded hsucceeded hnotes =>
      rw [if_pos (LinkerRun.rejection?_of_fault?_eq_none
        (LinkerRun.fault?_of_succeeded hsucceeded))]
      exact hstarted hnotes
  | refused _ hfault hnotes =>
      rw [if_pos (LinkerRun.rejection?_of_fault?_eq_none hfault)]
      exact hstarted hnotes
  | undecodable _ htaken hnotes =>
      rw [if_pos htaken]
      exact hstarted hnotes
  | rejected hran =>
      subst hran
      rfl

theorem result_eq_ok_iff : outcome.result = .ok () ↔ ran.Succeeded := by
  cases h with
  | succeeded hsucceeded => simp [hsucceeded]
  | refused hnot => simp [hnot]
  | undecodable hfault =>
      refine iff_of_false (by simp) fun hsucceeded => ?_
      exact absurd (hfault.symm.trans (LinkerRun.fault?_of_succeeded hsucceeded)) (by simp)
  | rejected hran =>
      subst hran
      simp [LinkerRun.Succeeded]

theorem result_eq_fault_iff {fault : Fault} :
    outcome.result = .error (.fault fault) ↔ ran.fault? = some fault := by
  cases h with
  | succeeded hsucceeded => simp [LinkerRun.fault?_of_succeeded hsucceeded]
  | refused _ hfault => simp [hfault]
  | undecodable hfault => simp [hfault]
  | rejected hran =>
      subst hran
      simp [LinkerRun.fault?]

theorem detail_ne_empty {detail : String} (hrefused : outcome.result = .error (.refused detail)) :
    detail ≠ "" := by
  cases h with
  | succeeded | undecodable | rejected => exact absurd hrefused (by simp)
  | refused _ _ _ hdetail =>
      obtain rfl := CallFailure.refused.inj (Except.error.inj hrefused)
      exact hdetail

end Handed

end Gnu

end LinkDriver
