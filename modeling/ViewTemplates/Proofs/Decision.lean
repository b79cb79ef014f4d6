import ViewTemplates.Proofs.Runs

/-! How a view decides what to do for a template. The five decisions exclude each other, and each
gives the run of the dispatch by one equation. A dispatch takes one step. -/
namespace ViewTemplates

namespace Assigns

theorem addGuard?_of_mem {a : Assigns} {guard : TemplateRef} (member : guard ∈ a.guards) :
    a.addGuard? guard = none := by
  simp [addGuard?,member]

theorem addGuard?_of_not_mem {a : Assigns} {guard : TemplateRef} (fresh : guard ∉ a.guards) :
    a.addGuard? guard = some { a with guards := a.guards ++ [guard] } :=
  addGuard?_eq_some_iff.mpr ⟨fresh,rfl⟩

end Assigns

namespace View

variable {view : View} {template : String} {a : Assigns}
  {perform : (call : Call) → Run call.Answer}

/-- A view of clauses and a hook alone, without files. -/
def bare (name : String) (nameValid : Naming.isViewName name = true) (clauses : KeyMap Clause)
    (notFound : Option Hook) : View where
  name := name
  nameValid := nameValid
  root := ""
  pattern := "*"
  extensions := []
  templates := .empty
  clauses := clauses
  notFound := notFound
  resourceName := Naming.resource name Naming.suffix
  digest := .ofPaths []

theorem hasTemplate_eq_false_iff :
    view.hasTemplate template = false ↔
      view.clauses.find? template = none ∧ view.templates.find? template = none := by
  simp [hasTemplate,KeyMap.contains]

/-- What is done for a template, and when. -/
inductive Decision (view : View) (template : String) (a : Assigns) : Prop
  | clause (clause : Clause) (found : view.clauses.find? template = some clause)
  | template (compiled : Template) (unclaimed : view.clauses.find? template = none)
      (found : view.templates.find? template = some compiled)
  | soft (missing : view.hasTemplate template = false)
      (tagged : a.softRequest = some ⟨view.name,template⟩)
  | hook (hook : Hook) (missing : view.hasTemplate template = false)
      (untagged : a.softRequest ≠ some ⟨view.name,template⟩) (found : view.notFound = some hook)
      (fresh : ⟨view.name,template⟩ ∉ a.guards)
  | undefined (missing : view.hasTemplate template = false)
      (untagged : a.softRequest ≠ some ⟨view.name,template⟩)
      (uncalled : view.notFound = none ∨ ⟨view.name,template⟩ ∈ a.guards)

theorem decision (view : View) (template : String) (a : Assigns) :
    view.Decision template a := by
  rcases claimed : view.clauses.find? template with _ | clause
  case some => exact .clause clause claimed
  rcases held : view.templates.find? template with _ | compiled
  case some => exact .template compiled claimed held
  have missing := hasTemplate_eq_false_iff.mpr ⟨claimed,held⟩
  by_cases tagged : a.softRequest = some ⟨view.name,template⟩
  · exact .soft missing tagged
  by_cases guarded : ⟨view.name,template⟩ ∈ a.guards
  · exact .undefined missing tagged (.inr guarded)
  rcases found : view.notFound with _ | hook
  · exact .undefined missing tagged (.inl found)
  · exact .hook hook missing tagged found guarded

theorem renderAlone_of_clause {clause : Clause}
    (found : view.clauses.find? template = some clause) :
    view.renderAlone perform template a =
      some <$> ((clause a).run perform).inside (.clause ⟨view.name,template⟩ a) := by
  simp [renderAlone,found]

theorem renderAlone_of_template {compiled : Template}
    (unclaimed : view.clauses.find? template = none)
    (found : view.templates.find? template = some compiled) :
    view.renderAlone perform template a = some <$> (Run.ofExcept (compiled.render a)).inside
      fun _ => .template ⟨view.name,template⟩ a := by
  simp [renderAlone,unclaimed,found]

theorem renderAlone_of_missing (missing : view.hasTemplate template = false) :
    view.renderAlone perform template a = view.renderMissing perform template a := by
  obtain ⟨unclaimed,uncompiled⟩ := hasTemplate_eq_false_iff.mp missing
  simp [renderAlone,unclaimed,uncompiled]

theorem renderAlone_of_soft (missing : view.hasTemplate template = false)
    (tagged : a.softRequest = some ⟨view.name,template⟩) :
    view.renderAlone perform template a =
      (pure none : Run (Option Rendered)).inside fun _ => .missed ⟨view.name,template⟩ a := by
  rw [renderAlone_of_missing missing]
  simp [renderMissing,tagged]

/-- The hook is given the assigns with the pair as their last guard. -/
theorem renderAlone_of_hook {hook : Hook} (missing : view.hasTemplate template = false)
    (untagged : a.softRequest ≠ some ⟨view.name,template⟩) (found : view.notFound = some hook)
    (fresh : ⟨view.name,template⟩ ∉ a.guards) :
    view.renderAlone perform template a =
      some <$> ((hook template { a with guards := a.guards ++ [⟨view.name,template⟩] }).run
        perform).inside
          (.hook ⟨view.name,template⟩ { a with guards := a.guards ++ [⟨view.name,template⟩] }) := by
  rw [renderAlone_of_missing missing]
  simp [renderMissing,untagged,Assigns.addGuard?_of_not_mem fresh,found]

theorem renderAlone_of_undefined (missing : view.hasTemplate template = false)
    (untagged : a.softRequest ≠ some ⟨view.name,template⟩)
    (uncalled : view.notFound = none ∨ ⟨view.name,template⟩ ∈ a.guards) :
    view.renderAlone perform template a = (Run.fail (view.undefined template)).inside
      fun _ => .missed ⟨view.name,template⟩ a := by
  rw [renderAlone_of_missing missing]
  rcases uncalled with hookless | guarded
  · rcases added : a.addGuard? ⟨view.name,template⟩ <;> simp [renderMissing,untagged,added,hookless]
  · simp [renderMissing,untagged,Assigns.addGuard?_of_mem guarded]

/-- The step that a dispatch takes. A miss is soft, or it is how the dispatch ends. -/
inductive Takes (perform : (call : Call) → Run call.Answer) (view : View) (template : String)
    (a : Assigns) : Step → Prop
  | clause {clause : Clause} : view.clauses.find? template = some clause →
      Takes perform view template a
        (.clause ⟨view.name,template⟩ a ((clause a).run perform).steps)
  | template {compiled : Template} : view.clauses.find? template = none →
      view.templates.find? template = some compiled →
      Takes perform view template a (.template ⟨view.name,template⟩ a)
  | hook {hook : Hook} : view.hasTemplate template = false → view.notFound = some hook →
      ⟨view.name,template⟩ ∉ a.guards →
      Takes perform view template a
        (.hook ⟨view.name,template⟩ { a with guards := a.guards ++ [⟨view.name,template⟩] }
          ((hook template { a with guards := a.guards ++ [⟨view.name,template⟩] }).run
            perform).steps)
  | missed : view.hasTemplate template = false →
      (a.softRequest = some ⟨view.name,template⟩ ∨
        (view.renderAlone perform template a).outcome = .error (view.undefined template)) →
      Takes perform view template a (.missed ⟨view.name,template⟩ a)

theorem takes_of_mem_renderAlone {step : Step}
    (member : step ∈ (view.renderAlone perform template a).steps) :
    view.Takes perform template a step := by
  cases view.decision template a with
  | clause clause found =>
    rw [renderAlone_of_clause found,Run.steps_map] at member
    exact List.mem_singleton.mp member ▸ .clause found
  | template compiled unclaimed found =>
    rw [renderAlone_of_template unclaimed found,Run.steps_map] at member
    exact List.mem_singleton.mp member ▸ .template unclaimed found
  | soft missing tagged =>
    rw [renderAlone_of_soft missing tagged] at member
    exact List.mem_singleton.mp member ▸ .missed missing (.inl tagged)
  | hook hook missing untagged found fresh =>
    rw [renderAlone_of_hook missing untagged found fresh,Run.steps_map] at member
    exact List.mem_singleton.mp member ▸ .hook missing found fresh
  | undefined missing untagged uncalled =>
    have failed : (view.renderAlone perform template a).outcome =
        .error (view.undefined template) := by
      rw [renderAlone_of_undefined missing untagged uncalled]
      rfl
    rw [renderAlone_of_undefined missing untagged uncalled] at member
    exact List.mem_singleton.mp member ▸ .missed missing (.inr failed)

end View

end ViewTemplates
