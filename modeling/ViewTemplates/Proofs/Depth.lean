import ViewTemplates.Proofs.Decision
import ViewTemplates.Proofs.Dispatch

/-! Runs of limited depth. A run that ends within its depth is the run at every greater depth, so
what a call returns does not depend on how deep calls may nest. -/
namespace ViewTemplates

namespace Run

/-- The run ends with an answer or an error. -/
def Finished (run : Run α) : Prop := run.outcome ≠ .exhausted

theorem attempt_of_answer {run : Run α} {value : α} (answered : run.outcome = .answer value)
    (next : Except RenderError α → Run β) :
    run.attempt next = ⟨run.steps ++ (next (.ok value)).steps,(next (.ok value)).outcome⟩ := by
  simp [attempt,answered]

theorem attempt_of_error {run : Run α} {error : RenderError} (failed : run.outcome = .error error)
    (next : Except RenderError α → Run β) :
    run.attempt next =
      ⟨run.steps ++ (next (.error error)).steps,(next (.error error)).outcome⟩ := by
  simp [attempt,failed]

theorem attempt_of_exhausted {run : Run α} (ended : run.outcome = .exhausted)
    (next : Except RenderError α → Run β) : run.attempt next = ⟨run.steps,.exhausted⟩ := by
  simp [attempt,ended]

theorem Finished.attempt {run : Run α} (finished : run.Finished) :
    ∃ result, ∀ {β : Type} (next : Except RenderError α → Run β),
      run.attempt next = ⟨run.steps ++ (next result).steps,(next result).outcome⟩ := by
  cases ended : run.outcome with
  | answer value => exact ⟨.ok value,attempt_of_answer ended⟩
  | error error => exact ⟨.error error,attempt_of_error ended⟩
  | exhausted => exact absurd ended finished

theorem finished_of_attempt {run : Run α} {next : Except RenderError α → Run β}
    (finished : (run.attempt next).Finished) : run.Finished := by
  intro ended
  rw [attempt_of_exhausted ended] at finished
  exact finished rfl

theorem mem_steps_attempt {run : Run α} {next : Except RenderError α → Run β} {step : Step}
    (member : step ∈ run.steps) : step ∈ (run.attempt next).steps := by
  by_cases finished : run.Finished
  · obtain ⟨result,goesOn⟩ := finished.attempt
    rw [goesOn]
    exact List.mem_append_left _ member
  · rw [attempt_of_exhausted (Classical.not_not.mp finished)]
    exact member

theorem finished_ofExcept (result : Except RenderError α) : (ofExcept result).Finished := by
  cases result <;> exact nofun

theorem lasting_finished : Lasting fun _ run => run.Finished where
  pure value := nofun
  fail error := nofun
  bind {_ _ run next} first later := by
    cases ended : run.outcome with
    | answer value => rw [bind_of_answer ended]; exact later value
    | error error => rw [bind_of_error ended]; exact nofun
    | exhausted => exact absurd ended first

/-- If the first run is finished, then the second is the same. -/
def Extended (α : Type) (run other : Run α) : Prop := run.Finished → other = run

theorem Extended.attempt {run other : Run α} {next after : Except RenderError α → Run β}
    (extended : Extended α run other) (later : ∀ result, Extended β (next result) (after result)) :
    Extended β (run.attempt next) (other.attempt after) := by
  intro finished
  have first := finished_of_attempt finished
  obtain ⟨result,goesOn⟩ := first.attempt
  rw [goesOn next] at finished
  have same := later result finished
  rw [extended first,goesOn next,goesOn after,same]

theorem Extended.inside {run other : Run α} (extended : Extended α run other)
    (step : List Step → Step) : Extended α (run.inside step) (other.inside step) := by
  intro finished
  have same : other = run := extended finished
  rw [same]

theorem congruence_extended : Congruence Extended where
  pure value _ := rfl
  fail error _ := rfl
  bind first later := by
    simp only [bind,andThen]
    refine first.attempt fun result => ?_
    rcases result with error | value
    · exact fun _ => rfl
    · exact later value

end Run

open Run

variable {perform other : (call : Call) → Run call.Answer}

theorem Action.extended_run (extended : ∀ call, Extended _ (perform call) (other call))
    (action : Action) : Extended _ (action.run perform) (action.run other) := by
  induction action with
  | finish result => exact fun _ => rfl
  | call call next ih => exact ((extended call).inside _).attempt ih

theorem View.extended_renderAlone (extended : ∀ call, Extended _ (perform call) (other call))
    (view : View) (template : String) (a : Assigns) :
    Extended _ (view.renderAlone perform template a) (view.renderAlone other template a) := by
  cases view.decision template a with
  | clause clause found =>
    rw [renderAlone_of_clause found,renderAlone_of_clause found]
    exact congruence_extended.map some (((clause a).extended_run extended).inside _)
  | template compiled unclaimed found =>
    rw [renderAlone_of_template unclaimed found,renderAlone_of_template unclaimed found]
    exact fun _ => rfl
  | soft missing tagged =>
    rw [renderAlone_of_soft missing tagged,renderAlone_of_soft missing tagged]
    exact fun _ => rfl
  | hook hook missing untagged found fresh =>
    rw [renderAlone_of_hook missing untagged found fresh,
      renderAlone_of_hook missing untagged found fresh]
    exact congruence_extended.map some (((hook template _).extended_run extended).inside _)
  | undefined missing untagged uncalled =>
    rw [renderAlone_of_undefined missing untagged uncalled,
      renderAlone_of_undefined missing untagged uncalled]
    exact fun _ => rfl

namespace Renderer

variable {renderer : Renderer} {call : Call}

theorem extended_run_succ (renderer : Renderer) (depth : Nat) (call : Call) :
    Extended _ (renderer.run depth call) (renderer.run (depth + 1) call) := by
  induction depth generalizing call with
  | zero => exact fun finished => absurd rfl finished
  | succ depth ih =>
    exact congruence_extended.answer _ _ fun _ _ _ _ _ => View.extended_renderAlone ih _ _ _

/-- More depth does not change a finished run. -/
theorem run_of_le {depth deeper : Nat} (le : depth ≤ deeper)
    (finished : (renderer.run depth call).Finished) :
    renderer.run deeper call = renderer.run depth call := by
  induction le with
  | refl => rfl
  | step _ ih => exact (renderer.extended_run_succ _ call (ih ▸ finished)).trans ih

end Renderer

end ViewTemplates
