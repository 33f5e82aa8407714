import LinkDriver.Proofs.Attempt
import LinkDriver.Proofs.CommandLine.Rejection
import LinkDriver.Proofs.Engine.Recording
import LinkDriver.Session

/-!
# Sessions that return

Read `link_returned` first: a session that returns has parsed its command line, resolved the
arguments, and made a link attempt that ended well. With a recording engine the inputs of that
attempt are then those of the plan (`linkRecording_returned`).
-/

namespace LinkDriver.Session

open LinkDriver.Action CommandLine

/-- Resolving the arguments of a command line touches no engine. -/
theorem runs_resolve {σ : Type} {arguments : Arguments} {scanned : List String}
    {state final : σ} {options : LinkOptions}
    (h : Runs (resolve arguments scanned) state options final) :
    ((resolve arguments scanned).run state).result = .ok options ∧ final = state := by
  refine ⟨h.1, ?_⟩
  unfold resolve at h
  simp only [runs_bind_iff, runs_log_iff, runs_ofExcept_iff, runs_pure_iff] at h
  obtain ⟨-, _, ⟨-, rfl⟩, -, _, rfl, -, _, rfl, -, rfl⟩ := h
  rfl

/-- Resolving the arguments of a command line only takes notes. -/
theorem notedBefore_resolve {σ : Type} (arguments : Arguments) (scanned : List String)
    (state : σ) :
    NotedBefore ((resolve arguments scanned).run state)
      ⟨[], state, ((resolve arguments scanned).run state).result⟩ := by
  rw [resolve_result]
  unfold resolve
  cases hplaced : placedInputs arguments scanned with
  | error failure => exact .bind_error (.refl _)
  | ok inputs =>
      exact .bind_ok (.refl _) (.bind_ok (.log _ _ _ state) (.bind_ok (.log _ _ _ state) (.refl _)))

/-- A session whose arguments are resolved attempts a link. -/
theorem notedBefore_body {σ : Type} {host : HostView} {engine : Engine σ} {arguments : Arguments}
    {commandLine : List String} {state : σ} {options : LinkOptions}
    (h : ((resolve arguments commandLine).run state).result = .ok options) :
    NotedBefore ((body host engine arguments commandLine).run state)
      ((attempt host engine options).run state) := by
  have hresolve := notedBefore_resolve arguments commandLine state
  rw [h] at hresolve
  exact .bind_ok hresolve (.refl _)

/-- A session whose arguments are not resolved ends with that failure. -/
theorem notedBefore_body_of_unresolved {σ : Type} {host : HostView} {engine : Engine σ}
    {arguments : Arguments} {commandLine : List String} {state : σ} {failure : Failure}
    (h : ((resolve arguments commandLine).run state).result = .error failure) :
    NotedBefore ((body host engine arguments commandLine).run state)
      ⟨[], state, .error failure⟩ := by
  have hresolve := notedBefore_resolve arguments commandLine state
  rw [h] at hresolve
  exact .bind_error hresolve

/-- A session that returns has made an attempt that ended well. -/
theorem link_returned {σ : Type} {parsed : Parsed} {engine : Arguments → Engine σ} {state : σ}
    {commandLine : List String} (h : (link parsed engine state commandLine).2.ending = .returned) :
    ∃ arguments options output, parsed.result = .ok arguments ∧
      ((resolve arguments commandLine).run state).result = .ok options ∧
      Runs (attempt parsed.host (engine arguments) options) state output
        (link parsed engine state commandLine).1 := by
  unfold link at h ⊢
  cases hparsed : parsed.result with
  | error exit => simp [hparsed, Transcript.ofParsed, Transcript.early] at h
  | ok arguments =>
      cases hsinks : sinks arguments with
      | error fault => simp [hparsed, hsinks, Transcript.early] at h
      | ok sinks =>
          simp only [hparsed, hsinks, Transcript.ofEvents] at h ⊢
          -- No other result ends a session by returning.
          obtain ⟨output, houtput⟩ : ∃ output, ((body parsed.host (engine arguments) arguments
              commandLine).run state).result = .ok output := by
            unfold ending at h
            split at h
            · exact ⟨_, by assumption⟩
            · exact absurd h (by simp)
            · exact absurd h (by simp)
          have hbody : Runs (body parsed.host (engine arguments) arguments commandLine) state output
            _ := ⟨houtput, rfl⟩
          obtain ⟨options, middle, hresolve, hattempt⟩ := runs_bind_iff.mp hbody
          obtain ⟨hoptions, rfl⟩ := runs_resolve hresolve
          exact ⟨arguments, options, output, rfl, hoptions, hattempt⟩

/-- What a session with a recording engine leaves in the engine, if it returns. -/
theorem linkRecording_returned {host : Host} {failures : Recording.Failures}
    {commandLine : List String}
    (h : (linkRecording host failures commandLine).2.ending = .returned) :
    ∃ arguments options namespecs, (parse host commandLine).result = .ok arguments ∧
      ((resolve arguments commandLine).run Recording.State.new).result = .ok options ∧
      options.namespecs = some namespecs ∧
      (linkRecording host failures commandLine).1.inputs =
        (plan (options.objects.getD []) namespecs).map Recording.word ∧
      ∀ item ∈ plan (options.objects.getD []) namespecs, ¬ Recording.IsBlank item := by
  obtain ⟨arguments, options, output, hparse, hresolve, hattempt⟩ := link_returned h
  obtain ⟨namespecs, configuration, hnamespecs, -, hinvoke⟩ := runs_attempt hattempt
  obtain ⟨hinputs, hwhole⟩ := Recording.runs_invoke hinvoke
  exact ⟨arguments, options, namespecs, hparse, hresolve, hnamespecs, hinputs, hwhole⟩

end LinkDriver.Session
