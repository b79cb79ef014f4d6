import ViewTemplates.Rendering.Renderer

/-! Relations and properties of runs that go on from one part of a run to the next, and through
them from the dispatches of a call to the call. A call of a renderer looks at its clauses and
hooks in its dispatches only. -/
namespace ViewTemplates

namespace Run

/-- A relation that equal answers and equal errors have, and that goes on through answers. -/
structure Congruence (R : (α : Type) → Run α → Run α → Prop) : Prop where
  pure : ∀ {α : Type} (value : α), R α (pure value) (pure value)
  fail : ∀ {α : Type} (error : RenderError), R α (fail error) (fail error)
  bind : ∀ {α β : Type} {left right : Run α} {next after : α → Run β}, R α left right →
    (∀ value, R β (next value) (after value)) → R β (left >>= next) (right >>= after)

/-- A property that answers and errors have, and that goes on through answers. -/
structure Lasting (P : (α : Type) → Run α → Prop) : Prop where
  pure : ∀ {α : Type} (value : α), P α (pure value)
  fail : ∀ {α : Type} (error : RenderError), P α (fail error)
  bind : ∀ {α β : Type} {run : Run α} {next : α → Run β}, P α run →
    (∀ value, P β (next value)) → P β (run >>= next)

theorem Lasting.congruence {P : (α : Type) → Run α → Prop} (lasting : Lasting P) :
    Congruence fun α run _ => P α run where
  pure := lasting.pure
  fail := lasting.fail
  bind := lasting.bind

theorem Congruence.ofExcept {R : (α : Type) → Run α → Run α → Prop} (congruence : Congruence R)
    (result : Except RenderError α) : R α (ofExcept result) (ofExcept result) := by
  cases result with
  | ok value => exact congruence.pure value
  | error error => exact congruence.fail error

theorem Congruence.map {R : (α : Type) → Run α → Run α → Prop} (congruence : Congruence R)
    {left right : Run α} (f : α → β) (related : R α left right) :
    R β (f <$> left) (f <$> right) := by
  rw [← bind_pure_comp,← bind_pure_comp]
  exact congruence.bind related fun value => congruence.pure (f value)

theorem Lasting.map {P : (α : Type) → Run α → Prop} (lasting : Lasting P) {run : Run α}
    (f : α → β) (held : P α run) : P β (f <$> run) := by
  rw [← bind_pure_comp]
  exact lasting.bind held fun value => lasting.pure (f value)

theorem bind_of_answer {run : Run α} {value : α} (answered : run.outcome = .answer value)
    (next : α → Run β) :
    run >>= next = ⟨run.steps ++ (next value).steps,(next value).outcome⟩ := by
  simp [bind,andThen,attempt,answered]

theorem bind_of_error {run : Run α} {error : RenderError} (failed : run.outcome = .error error)
    (next : α → Run β) : run >>= next = ⟨run.steps,.error error⟩ := by
  simp [bind,andThen,attempt,failed,fail]

theorem bind_of_exhausted {run : Run α} (ended : run.outcome = .exhausted)
    (next : α → Run β) : run >>= next = ⟨run.steps,.exhausted⟩ := by
  simp [bind,andThen,attempt,ended]

@[simp] theorem steps_map (f : α → β) (run : Run α) : (f <$> run).steps = run.steps := by
  obtain ⟨steps,outcome⟩ := run
  cases outcome <;> simp [Functor.map,andThen,attempt,fail]

theorem outcome_bind_eq_answer_iff {run : Run α} {next : α → Run β} {value : β} :
    (run >>= next).outcome = .answer value ↔
      ∃ first, run.outcome = .answer first ∧ (next first).outcome = .answer value := by
  cases ended : run.outcome with
  | answer first => rw [bind_of_answer ended]; simp
  | error error => rw [bind_of_error ended]; simp
  | exhausted => rw [bind_of_exhausted ended]; simp

theorem outcome_map_eq_answer_iff {run : Run α} {f : α → β} {value : β} :
    (f <$> run).outcome = .answer value ↔ ∃ first, run.outcome = .answer first ∧ f first = value := by
  obtain ⟨steps,outcome⟩ := run
  cases outcome <;> simp [Functor.map,andThen,attempt,fail]

theorem outcome_bind_eq_error_iff {run : Run α} {next : α → Run β} {error : RenderError} :
    (run >>= next).outcome = .error error ↔
      run.outcome = .error error ∨
        ∃ value, run.outcome = .answer value ∧ (next value).outcome = .error error := by
  cases ended : run.outcome with
  | answer value => rw [bind_of_answer ended]; simp
  | error error => rw [bind_of_error ended]; simp
  | exhausted => rw [bind_of_exhausted ended]; simp

theorem outcome_map_eq_error_iff {run : Run α} {f : α → β} {error : RenderError} :
    (f <$> run).outcome = .error error ↔ run.outcome = .error error := by
  obtain ⟨steps,outcome⟩ := run
  cases outcome <;> simp [Functor.map,andThen,attempt,fail]

/-- Without an answer it does not matter how a run goes on. -/
theorem bind_eq_of_unanswered {run : Run α} (unanswered : ∀ value, run.outcome ≠ .answer value)
    (next other : α → Run β) : run >>= next = run >>= other := by
  cases ended : run.outcome with
  | answer value => exact absurd ended (unanswered value)
  | error error => rw [bind_of_error ended,bind_of_error ended]
  | exhausted => rw [bind_of_exhausted ended,bind_of_exhausted ended]

/-- To go on with the answer itself is to stop. -/
theorem bind_eq_self {run : Run α} {next : α → Run α}
    (same : ∀ value, run.outcome = .answer value → next value = pure value) :
    run >>= next = run := by
  obtain ⟨steps,outcome⟩ := run
  cases outcome with
  | answer value => rw [bind_of_answer rfl,same value rfl]; simp [Pure.pure]
  | error error => exact bind_of_error rfl next
  | exhausted => exact bind_of_exhausted rfl next

/-- Equal outcomes go on to equal outcomes. -/
theorem congruence_outcome : Congruence fun _ left right => left.outcome = right.outcome where
  pure _ := rfl
  fail _ := rfl
  bind {_ _ left right next after} first later := by
    cases ended : right.outcome with
    | answer value =>
      rw [bind_of_answer (first.trans ended),bind_of_answer ended]
      exact later value
    | error error => rw [bind_of_error (first.trans ended),bind_of_error ended]
    | exhausted => rw [bind_of_exhausted (first.trans ended),bind_of_exhausted ended]

theorem exists_steps_bind (run : Run α) (next : α → Run β) :
    ∃ later, (run >>= next).steps = run.steps ++ later := by
  cases ended : run.outcome with
  | answer value => exact ⟨_,by rw [bind_of_answer ended]⟩
  | error error => exact ⟨[],by simp [bind_of_error ended]⟩
  | exhausted => exact ⟨[],by simp [bind_of_exhausted ended]⟩

/-- Every step is one of the run or one of what went on from its answer. -/
theorem mem_steps_bind {run : Run α} {next : α → Run β} {step : Step}
    (member : step ∈ (run >>= next).steps) :
    step ∈ run.steps ∨ ∃ value, run.outcome = .answer value ∧ step ∈ (next value).steps := by
  cases ended : run.outcome with
  | answer value =>
    rw [bind_of_answer ended] at member
    exact (List.mem_append.mp member).imp id fun later => ⟨value,rfl,later⟩
  | error error =>
    rw [bind_of_error ended] at member
    exact .inl member
  | exhausted =>
    rw [bind_of_exhausted ended] at member
    exact .inl member

/-- A property that all steps have lasts. -/
theorem lasting_steps (property : Step → Prop) :
    Lasting fun _ run => ∀ step ∈ run.steps, property step where
  pure value := by simp [Pure.pure]
  fail error := by simp [fail]
  bind first later step member := by
    rcases mem_steps_bind member with before | ⟨value,_,after⟩
    · exact first step before
    · exact later value step after

end Run

end ViewTemplates
