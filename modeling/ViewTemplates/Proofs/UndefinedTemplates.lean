import ViewTemplates.Proofs.LayoutRendering
import ViewTemplates.Proofs.Depth

/-! The error for an undefined template. Where the code of the caller does not make it, it names a
view that is held and lists what that view compiled. The view does not have the template that the
error names, unless a layout was missed softly on the way: then the error is that of the template
inside the layout. -/
namespace ViewTemplates

def RenderError.IsUndefined : RenderError → Prop
  | .templateUndefined .. => True
  | _ => False

/-- Whatever its calls end with, the action fails with an undefined template only by passing on the
error of a call. `met` are the errors of the calls made before. -/
def Action.PassesOn (met : List RenderError) : Action → Prop
  | .finish (.ok _) => True
  | .finish (.error error) => error.IsUndefined → error ∈ met
  | .call _ next => (∀ answer, (next (.ok answer)).PassesOn met) ∧
      ∀ error, (next (.error error)).PassesOn (error :: met)

/-- The call is the step, or is made within it. -/
inductive Step.Includes (last : Call) : Step → Prop
  | here {taken : List Step} : Includes last (.call last taken)
  | call {call : Call} {taken : List Step} {step : Step} : step ∈ taken → Includes last step →
      Includes last (.call call taken)
  | clause {ref : TemplateRef} {given : Assigns} {inner : List Step} {step : Step} :
      step ∈ inner → Includes last step → Includes last (.clause ref given inner)
  | hook {ref : TemplateRef} {given : Assigns} {inner : List Step} {step : Step} :
      step ∈ inner → Includes last step → Includes last (.hook ref given inner)

theorem Step.Includes.mono {call last : Call} {steps more : List Step}
    (includes : (Step.call call steps).Includes last) (sub : steps ⊆ more) :
    (Step.call call more).Includes last := by
  cases includes with
  | here => exact .here
  | call member inner => exact .call (sub member) inner

/-- An action that passes on errors fails with one met before, or with that of a call it makes. -/
theorem Action.error_of_passesOn {perform : (call : Call) → Run call.Answer} {action : Action}
    {met : List RenderError} {error : RenderError} (passes : action.PassesOn met)
    (failed : (action.run perform).outcome = .error error) (undefined : error.IsUndefined) :
    error ∈ met ∨ ∃ call, .call call (perform call).steps ∈ (action.run perform).steps ∧
      (perform call).outcome = .error error := by
  induction action generalizing met with
  | finish result =>
    rcases result with own | value
    · obtain rfl : own = error := Outcome.error.inj failed
      exact .inl (passes undefined)
    · contradiction
  | call call next ih =>
    cases ended : ((perform call).inside (.call call)).outcome with
    | answer value =>
      rw [run,Run.attempt_of_answer ended] at failed ⊢
      rcases ih _ (passes.1 value) failed with before | ⟨later,made,failedLater⟩
      · exact .inl before
      · exact .inr ⟨later,List.mem_append_right _ made,failedLater⟩
    | error here =>
      rw [run,Run.attempt_of_error ended] at failed ⊢
      rcases ih _ (passes.2 here) failed with met | ⟨later,made,failedLater⟩
      · rcases List.mem_cons.mp met with rfl | before
        · exact .inr ⟨call,List.mem_append_left _ List.mem_cons_self,ended⟩
        · exact .inl before
      · exact .inr ⟨later,List.mem_append_right _ made,failedLater⟩
    | exhausted =>
      rw [run,Run.attempt_of_exhausted ended] at failed
      contradiction

namespace Renderer

/-- No clause, no hook and no template of the caller's own makes the error for an undefined
template. -/
structure PassesOn (renderer : Renderer) : Prop where
  clauses : ∀ {name template : String} {view : View} {clause : Clause},
    renderer.view name = .ok view → view.clauses.find? template = some clause →
      ∀ given, (clause given).PassesOn []
  hooks : ∀ {name : String} {view : View} {hook : Hook},
    renderer.view name = .ok view → view.notFound = some hook →
      ∀ template given, (hook template given).PassesOn []
  templates : ∀ {name template : String} {view : View}
    {run : Assigns → Except RenderError Rendered},
    renderer.view name = .ok view → view.templates.find? template = some (.custom run) →
      ∀ given error, run given = .error error → ¬ error.IsUndefined

/-- The assigns name a layout that its view does not have, and have the soft tag for it. -/
def LayoutMissed (renderer : Renderer) (a : Assigns) : Prop :=
  ∃ layout layoutView, a.takeLayout.1 = .ok (some layout) ∧
    renderer.view layout.view = .ok layoutView ∧
    layoutView.hasTemplate layout.template = false ∧ a.softRequest = some layout

variable {renderer : Renderer} {perform : (call : Call) → Run call.Answer}
  {view template : String} {a : Assigns} {owner : View} {call : Call} {depth : Nat}

/-- A rendering without a value misses its template, or the layout that its soft tag names. -/
theorem missing_or_layoutMissed (found : renderer.view view = .ok owner)
    (missed : (renderer.renderIfPresent perform view template a).outcome = .answer none) :
    owner.hasTemplate template = false ∨ renderer.LayoutMissed a := by
  rcases taken : a.takeLayout.1 with value | layout
  · rw [renderIfPresent_of_invalid taken] at missed
    contradiction
  rcases layout with _ | layout
  · rw [renderIfPresent_of_none taken found] at missed
    exact .inl (View.renderAlone_eq_none_iff.mp missed).1
  rcases held : renderer.view layout.view with error | layoutView
  · rw [renderIfPresent_of_unknown_layout taken found held] at missed
    contradiction
  · rw [renderIfPresent_of_layout taken found held] at missed
    obtain ⟨inner,_,layoutMissed⟩ := Run.outcome_bind_eq_answer_iff.mp missed
    obtain ⟨missing,tagged⟩ := View.renderAlone_eq_none_iff.mp layoutMissed
    rw [name_of_view held] at tagged
    exact .inr ⟨layout,layoutView,taken,held,missing,tagged⟩

/-- The error is that of a view that is held, for a template which it does not have, or which one of
these calls asks for in a layout that is missed. -/
def Accounts (renderer : Renderer) (calls : Call → Prop) (error : RenderError) : Prop :=
  ∃ owner template, renderer.view owner.name = .ok owner ∧ error = owner.undefined template ∧
    (owner.hasTemplate template = false ∨ ∃ last, calls last ∧ last.view = owner.name ∧
      last.template = template ∧ ∃ given ∈ renderer.rendered last, renderer.LayoutMissed given)

theorem Accounts.mono {calls more : Call → Prop} {error : RenderError}
    (accounts : renderer.Accounts calls error) (sub : ∀ last, calls last → more last) :
    renderer.Accounts more error := by
  obtain ⟨owner,template,held,same,missing | ⟨last,member,asked⟩⟩ := accounts
  · exact ⟨owner,template,held,same,.inl missing⟩
  · exact ⟨owner,template,held,same,.inr ⟨last,sub last member,asked⟩⟩

/-- An undefined template that the run fails with is accounted for by the call and the calls within
the steps of the run. -/
def Accounted (renderer : Renderer) (call : Call) (α : Type) (run : Run α) : Prop :=
  ∀ error, run.outcome = .error error → error.IsUndefined →
    renderer.Accounts (fun last => (Step.call call run.steps).Includes last) error

theorem accounted_pure (value : α) : renderer.Accounted call α (pure value) := by
  intro error failed
  contradiction

theorem accounted_fail {error : RenderError} (other : ¬ error.IsUndefined) :
    renderer.Accounted call α (.fail error) := by
  intro met failed undefined
  obtain rfl : error = met := Outcome.error.inj failed
  exact absurd undefined other

theorem accounted_bind {run : Run α} {next : α → Run β} (first : renderer.Accounted call α run)
    (later : ∀ value, run.outcome = .answer value → renderer.Accounted call β (next value)) :
    renderer.Accounted call β (run >>= next) := by
  intro error failed undefined
  rcases Run.outcome_bind_eq_error_iff.mp failed with here | ⟨value,answered,after⟩
  · refine (first error here undefined).mono fun last includes => includes.mono ?_
    obtain ⟨more,steps⟩ := Run.exists_steps_bind run next
    exact steps ▸ List.subset_append_left _ _
  · refine (later value answered error after undefined).mono fun last includes => includes.mono ?_
    rw [Run.bind_of_answer answered]
    exact List.subset_append_right _ _

theorem accounted_mapError {result : Except ε α} {f : ε → RenderError}
    (other : ∀ error, ¬ (f error).IsUndefined) :
    renderer.Accounted call α (.ofExcept (result.mapError f)) := by
  rcases result with error | value
  · exact accounted_fail (other error)
  · exact accounted_pure value

theorem accounted_map {run : Run α} (f : α → β) (accounted : renderer.Accounted call α run) :
    renderer.Accounted call β (f <$> run) := by
  rw [← bind_pure_comp]
  exact accounted_bind accounted fun value _ => accounted_pure (f value)

theorem not_isUndefined_of_view {error : RenderError}
    (unknown : renderer.view view = .error error) : ¬ error.IsUndefined := by
  unfold Renderer.view at unknown
  split at unknown
  next => contradiction
  next => exact Except.error.inj unknown ▸ id

/-- The runs of the dispatches of these assigns are accounted for. -/
def DispatchesAccounted (renderer : Renderer) (perform : (call : Call) → Run call.Answer)
    (call : Call) (a : Assigns) : Prop :=
  ∀ {owner : View} {asked : String} {taken : Assigns},
    renderer.Dispatches call.view call.template a owner asked taken →
      renderer.Accounted call _ (owner.renderAlone perform asked taken)

theorem accounted_renderIfPresent (held : renderer.DispatchesAccounted perform call a) :
    renderer.Accounted call _ (renderer.renderIfPresent perform call.view call.template a) := by
  rcases taken : a.takeLayout.1 with value | layout
  · rw [renderIfPresent_of_invalid taken]
    exact accounted_fail id
  rcases found : renderer.view call.view with error | owner
  · rw [renderIfPresent_of_unknown taken found]
    exact accounted_fail (not_isUndefined_of_view found)
  rcases layout with _ | layout
  · rw [renderIfPresent_of_none taken found]
    exact held (.own found)
  rcases heldLayout : renderer.view layout.view with error | layoutView
  · rw [renderIfPresent_of_unknown_layout taken found heldLayout]
    exact accounted_fail (not_isUndefined_of_view heldLayout)
  · rw [renderIfPresent_of_layout taken found heldLayout]
    exact accounted_bind (held (.own found)) fun inner _ => held (.around inner taken heldLayout)

theorem accounted_renderPlain (member : a ∈ renderer.rendered call)
    (held : renderer.DispatchesAccounted perform call a) :
    renderer.Accounted call _ (renderer.renderPlain perform call.view call.template a) := by
  refine accounted_bind (accounted_renderIfPresent held) fun rendered missed => ?_
  rcases rendered with _ | rendered
  · rcases found : renderer.view call.view with error | owner
    · exact accounted_fail (not_isUndefined_of_view found)
    intro error failed _
    -- Here the renderer makes the error itself, and names the template asked for whichever of the
    -- two dispatches missed.
    have name := name_of_view found
    obtain rfl : owner.undefined call.template = error := Outcome.error.inj failed
    refine ⟨owner,call.template,name ▸ found,rfl,?_⟩
    refine (missing_or_layoutMissed found missed).imp id fun layoutMissed => ?_
    exact ⟨call,.here,name.symm,rfl,a,member,layoutMissed⟩
  · exact accounted_pure rendered

theorem accounted_renderItems {key : String} {items : List Item}
    (member : ∀ {value : Json}, .ok value ∈ items → a.insert key value ∈ renderer.rendered call)
    (held : ∀ {value : Json}, .ok value ∈ items →
      renderer.DispatchesAccounted perform call (a.insert key value)) :
    renderer.Accounted call _
      (renderer.renderItems perform call.view call.template a key items) := by
  induction items with
  | nil => exact accounted_pure []
  | cons item rest ih =>
    rcases item with reason | value
    · exact accounted_fail id
    · have first := accounted_renderPlain (member List.mem_cons_self) (held List.mem_cons_self)
      have others := ih (fun inRest => member (List.mem_cons_of_mem _ inRest))
        (fun inRest => held (List.mem_cons_of_mem _ inRest))
      simp only [renderItems,Run.ofExcept_mapError_ok,pure_bind]
      exact accounted_bind first fun _ _ => accounted_bind others fun _ _ => accounted_pure _

theorem not_isUndefined_of_itemKey {error : RenderError}
    (failed : renderer.itemKey view a = .error error) : ¬ error.IsUndefined := by
  have derived (unknown : (renderer.view view).map View.resourceName = .error error) :
      ¬ error.IsUndefined := by
    rcases found : renderer.view view with other | owner <;> rw [found] at unknown
    · exact Except.error.inj unknown ▸ not_isUndefined_of_view found
    · contradiction
  unfold itemKey at failed
  split at failed
  next => contradiction
  next => exact derived failed
  next => exact derived failed
  next => exact Except.error.inj failed ▸ id

theorem accounted_renderMany {items : List Item}
    (member : ∀ {given : Assigns}, given ∈ renderer.bound call.view a items →
      given ∈ renderer.rendered call)
    (held : ∀ {given : Assigns}, given ∈ renderer.bound call.view a items →
      renderer.DispatchesAccounted perform call given) :
    renderer.Accounted call _ (renderer.renderMany perform call.view call.template a items) := by
  rcases chosen : renderer.itemKey call.view a with error | key
  · simp only [renderMany,chosen,Run.ofExcept_error,Run.fail_bind]
    exact accounted_fail (not_isUndefined_of_itemKey chosen)
  · simp only [renderMany,chosen,Run.ofExcept_ok,pure_bind]
    exact accounted_renderItems (fun inItems => member (mem_bound chosen inItems))
      fun inItems => held (mem_bound chosen inItems)

theorem accounted_renderOutput (member : a ∈ renderer.rendered call)
    (held : renderer.DispatchesAccounted perform call a) :
    renderer.Accounted call _ (renderer.renderOutput perform call.view call.template a) := by
  refine accounted_bind (accounted_renderPlain member held) fun rendered _ => ?_
  rcases renderer.registry.registry.encoder? call.template with _ | encoder
  · exact accounted_pure _
  · exact accounted_bind (accounted_mapError fun _ => id) fun bytes _ => accounted_pure _

theorem accounted_answer (held : ∀ {given : Assigns}, given ∈ renderer.rendered call →
      renderer.DispatchesAccounted perform call given) :
    renderer.Accounted call _ (renderer.answer perform call) := by
  obtain ⟨view,template,assigns,request⟩ := call
  have alone {given : Assigns}
      (only : renderer.rendered ⟨view,template,assigns,request⟩ = [given]) :
      given ∈ renderer.rendered ⟨view,template,assigns,request⟩ := only ▸ List.mem_singleton.mpr rfl
  cases request with
  | plain => exact accounted_renderPlain (alone rfl) (held (alone rfl))
  | existing => exact accounted_renderIfPresent (held (alone rfl))
  | layout content => exact accounted_renderPlain (alone rfl) (held (alone rfl))
  | many items => exact accounted_renderMany id held
  | one item =>
    rcases item with _ | item
    · exact accounted_pure none
    · exact accounted_map _ (accounted_renderMany id held)
  | output => exact accounted_renderOutput (alone rfl) (held (alone rfl))
  | text =>
    exact accounted_bind (accounted_renderOutput (alone rfl) (held (alone rfl)))
      fun output _ => accounted_mapError fun _ => id

theorem accounted_action {action : Action} (passes : action.PassesOn [])
    (ih : ∀ next, renderer.Accounted next _ (perform next)) {step : List Step → Step}
    (within : ∀ {last : Call} {inner : Step} {taken : List Step}, inner ∈ taken →
      inner.Includes last → (step taken).Includes last) :
    renderer.Accounted call _ (some <$> ((action.run perform).inside step)) := by
  refine accounted_map some fun error failed undefined => ?_
  rcases action.error_of_passesOn passes failed undefined with met | ⟨next,made,failedNext⟩
  · contradiction
  · refine (ih next error failedNext undefined).mono fun last includes => ?_
    exact .call List.mem_cons_self (within made includes)

/-- Templates that the engines of the library compile do not make the error. -/
theorem exists_custom_of_render {compiled : Template} {error : RenderError}
    (failed : compiled.render a = .error error) (undefined : error.IsUndefined) :
    ∃ run, compiled = .custom run := by
  cases compiled with
  | jinja template =>
    simp only [Template.render] at failed
    split at failed
    · contradiction
    · obtain rfl := Except.error.inj failed
      contradiction
  | simple escape segments => contradiction
  | data template => contradiction
  | custom run => exact ⟨run,rfl⟩

theorem accounted_renderAlone (passes : renderer.PassesOn)
    (held : renderer.view owner.name = .ok owner)
    (ih : ∀ next, renderer.Accounted next _ (perform next)) :
    renderer.Accounted call _ (owner.renderAlone perform template a) := by
  cases owner.decision template a with
  | clause clause found =>
    rw [View.renderAlone_of_clause found]
    exact accounted_action (passes.clauses held found a) ih .clause
  | template compiled unclaimed found =>
    rw [View.renderAlone_of_template unclaimed found]
    refine accounted_map some fun error failed undefined => ?_
    rcases made : compiled.render a with own | value <;> rw [made] at failed
    · obtain rfl : own = error := Outcome.error.inj failed
      obtain ⟨run,rfl⟩ := exists_custom_of_render made undefined
      exact absurd undefined (passes.templates held found a own made)
    · contradiction
  | soft missing tagged =>
    rw [View.renderAlone_of_soft missing tagged]
    intro error failed
    contradiction
  | hook hook missing untagged found fresh =>
    rw [View.renderAlone_of_hook missing untagged found fresh]
    exact accounted_action (passes.hooks held found template _) ih .hook
  | undefined missing untagged uncalled =>
    rw [View.renderAlone_of_undefined missing untagged uncalled]
    intro error failed _
    obtain rfl : owner.undefined template = error := Outcome.error.inj failed
    exact ⟨owner,template,held,rfl,.inl missing⟩

theorem accounted_run (passes : renderer.PassesOn) (depth : Nat) (call : Call) :
    renderer.Accounted call _ (renderer.run depth call) := by
  induction depth generalizing call with
  | zero =>
    intro error failed
    contradiction
  | succ depth ih =>
    exact accounted_answer fun _ _ _ _ dispatch =>
      accounted_renderAlone passes dispatch.ref.1 ih

/-- Where the code of the caller does not make the error for an undefined template, it names a view
that is held, with the names of its compiled templates in ascending order. The view does not have
the template that the error names, unless the call, or one made on the way, asked for it in a layout
that was missed softly. -/
theorem undefined_of_run (passes : renderer.PassesOn) {root pattern : String}
    {available : List String}
    (failed : (renderer.run depth call).outcome =
      .error (.templateUndefined view template root pattern available)) :
    ∃ owner, renderer.view view = .ok owner ∧ root = owner.root ∧ pattern = owner.pattern ∧
      available.Pairwise (· < ·) ∧
      (∀ name, name ∈ available ↔ owner.templates.contains name = true) ∧
      (owner.hasTemplate template = false ∨
        ∃ last, (Step.call call (renderer.run depth call).steps).Includes last ∧
          last.view = view ∧ last.template = template ∧
          ∃ given ∈ renderer.rendered last, renderer.LayoutMissed given) := by
  obtain ⟨owner,asked,held,same,how⟩ := accounted_run passes depth call _ failed trivial
  obtain ⟨rfl,rfl,rfl,rfl,rfl⟩ := RenderError.templateUndefined.inj same
  exact ⟨owner,held,rfl,rfl,owner.templates.keys_ascending,fun _ => KeyMap.mem_keys_iff,how⟩

/-- A view with a clause `row`, and a clause `page` that asks for the row in the layout `x`, which
the view does not have. -/
def shopView : View :=
  .bare "Shop" (by decide)
    ((KeyMap.empty.insert "row" fun _ => .finish (.ok (.safe "row"))).insert "page" fun given =>
      .call ⟨"Shop","row",given.withLayout "Shop" "x",.plain⟩ .finish)
    none

def shop : Renderer := holding ⟨0,.default⟩ [shopView]

theorem shop_passesOn : shop.PassesOn where
  clauses found claimed given := by
    obtain rfl := eq_of_view_holding found
    simp only [shopView,View.bare,KeyMap.find?_insert,KeyMap.find?_empty] at claimed
    split at claimed
    · obtain rfl := Option.some.inj claimed
      exact ⟨fun _ => trivial,fun error _ => List.mem_cons_self⟩
    · split at claimed
      · obtain rfl := Option.some.inj claimed
        exact trivial
      · contradiction
  hooks found hooked := by
    obtain rfl := eq_of_view_holding found
    contradiction
  templates found held := by
    obtain rfl := eq_of_view_holding found
    contradiction

def shopping : Call := ⟨"Shop","x",Assigns.empty.withLayout "Shop" "page",.existing⟩

/-- The soft request for `x` fails with the error for the row, which the page asked for in the
layout `x`. -/
theorem undefined_of_run_shop :
    shop.PassesOn ∧
    (shop.run 2 shopping).outcome = .error (.templateUndefined "Shop" "row" "" "*" []) ∧
    ∃ last, (Step.call shopping (shop.run 2 shopping).steps).Includes last ∧
      last.view = "Shop" ∧ last.template = "row" ∧
      ∃ given ∈ shop.rendered last, shop.LayoutMissed given := by
  have failed : (shop.run 2 shopping).outcome =
    .error (.templateUndefined "Shop" "row" "" "*" []) := rfl
  obtain ⟨owner,held,_,_,_,_,missing | asked⟩ := undefined_of_run shop_passesOn failed
  · obtain rfl := eq_of_view_holding held
    contradiction
  · exact ⟨shop_passesOn,failed,asked⟩

/-- An undefined template is not always one that its view does not have. -/
theorem undefined_template_of_its_view :
    ¬ ∀ (renderer : Renderer) (depth : Nat) (call : Call) (view template root pattern : String)
      (available : List String), renderer.PassesOn → call.assigns.guards = [] →
        call.assigns.softRequest = none →
        (renderer.run depth call).outcome =
          .error (.templateUndefined view template root pattern available) →
            ∃ owner, renderer.view view = .ok owner ∧ owner.hasTemplate template = false := by
  intro always
  obtain ⟨owner,held,missing⟩ :=
    always shop 2 shopping "Shop" "row" "" "*" [] shop_passesOn rfl rfl rfl
  obtain rfl := eq_of_view_holding held
  contradiction

end Renderer

end ViewTemplates
