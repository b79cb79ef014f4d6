import ViewTemplates.Rendering.Action

/-! Runs: what was called on the way to an answer, and how the call ended. -/
namespace ViewTemplates

/-- What was done for a template and with which assigns, and what happened within it: a clause, a
compiled template or a hook was called, or the template was missing and nothing was called. Within
a clause or hook are the calls it made. -/
inductive Step
  | clause (ref : TemplateRef) (given : Assigns) (inner : List Step)
  | template (ref : TemplateRef) (given : Assigns)
  | hook (ref : TemplateRef) (given : Assigns) (inner : List Step)
  | missed (ref : TemplateRef) (given : Assigns)
  | call (call : Call) (inner : List Step)

/-- How a run ends; the last is that of one which nests deeper than it may. -/
inductive Outcome (α : Type)
  | answer (value : α)
  | error (error : RenderError)
  | exhausted

structure Run (α : Type) where
  steps : List Step
  outcome : Outcome α

namespace Run

def fail (error : RenderError) : Run α := ⟨[],.error error⟩

def exhausted : Run α := ⟨[],.exhausted⟩

def ofExcept : Except RenderError α → Run α
  | .ok value => ⟨[],.answer value⟩
  | .error error => fail error

/-- Goes on with the answer or the error of a run. -/
def attempt (run : Run α) (next : Except RenderError α → Run β) : Run β :=
  let continued (result : Except RenderError α) : Run β :=
    let after := next result
    ⟨run.steps ++ after.steps,after.outcome⟩
  match run.outcome with
  | .answer value => continued (.ok value)
  | .error error => continued (.error error)
  | .exhausted => ⟨run.steps,.exhausted⟩

def andThen (run : Run α) (next : α → Run β) : Run β :=
  run.attempt fun result => match result with
    | .ok value => next value
    | .error error => fail error

instance : Monad Run where
  pure value := ⟨[],.answer value⟩
  bind := andThen

theorem pure_bind (value : α) (next : α → Run β) : (pure value >>= next : Run β) = next value := by
  simp [bind,pure,andThen,attempt]

theorem bind_assoc (run : Run α) (f : α → Run β) (g : β → Run γ) :
    run >>= f >>= g = run >>= fun value => f value >>= g := by
  obtain ⟨steps,outcome⟩ := run
  cases outcome with
  | answer value =>
    simp only [bind,andThen,attempt]
    rcases f value with ⟨later,outcome⟩
    cases outcome <;> simp [fail]
  | error error => simp [bind,andThen,attempt,fail]
  | exhausted => simp [bind,andThen,attempt]

theorem id_map (run : Run α) : id <$> run = run := by
  obtain ⟨steps,outcome⟩ := run
  cases outcome <;> simp [Functor.map,andThen,attempt,fail]

instance : LawfulMonad Run := LawfulMonad.mk' Run id_map pure_bind bind_assoc

@[simp] theorem ofExcept_ok (value : α) : ofExcept (.ok value) = pure value := rfl

@[simp] theorem ofExcept_error (error : RenderError) :
    (ofExcept (.error error) : Run α) = fail error := rfl

@[simp] theorem ofExcept_mapError_ok (f : ε → RenderError) (value : α) :
    ofExcept ((.ok value : Except ε α).mapError f) = pure value := rfl

@[simp] theorem ofExcept_mapError_error (f : ε → RenderError) (error : ε) :
    ofExcept ((.error error : Except ε α).mapError f) = fail (f error) := rfl

@[simp] theorem fail_bind (error : RenderError) (next : α → Run β) :
    fail error >>= next = fail error := by
  simp [bind,andThen,attempt,fail]

/-- Makes the steps of a run those within one step. -/
def inside (step : List Step → Step) (run : Run α) : Run α := ⟨[step run.steps],run.outcome⟩

end Run

/-- Runs an action, given how its calls run. -/
def Action.run (perform : (call : Call) → Run call.Answer) : Action → Run Rendered
  | .finish result => .ofExcept result
  | .call c next => ((perform c).inside (.call c)).attempt fun result => (next result).run perform

end ViewTemplates
