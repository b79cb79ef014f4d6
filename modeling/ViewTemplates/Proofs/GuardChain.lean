import ViewTemplates.Proofs.Decision
import ViewTemplates.Proofs.Dispatch

/-! Guards along nested calls. Every hook that is called has the pairs of all hooks around it as its
guards, behind those of the outermost call, and its own pair as the last; no pair is there twice on
account of a hook. Nothing is said of a branch on which a clause or hook goes on with other assigns
than those it was given. -/
namespace ViewTemplates

namespace Assigns

/-- The public edits of assigns. -/
inductive Edit
  | insert (key : String) (value : Json)
  | withLayout (view template : String)
  | erase (key : String)
  | setInnerContent (content : Rendered)
  | clearInnerContent
  | takeLayout

def edit (a : Assigns) : Edit → Assigns
  | .insert key value => a.insert key value
  | .withLayout view template => a.withLayout view template
  | .erase key => a.erase key
  | .setInnerContent content => a.setInnerContent content
  | .clearInnerContent => a.clearInnerContent
  | .takeLayout => a.takeLayout.2

def Edited (a b : Assigns) : Prop := ∃ edits : List Edit, edits.foldl edit a = b

theorem guards_edit (a : Assigns) (change : Edit) : (a.edit change).guards = a.guards := by
  cases change <;> rfl

theorem Edited.guards {a b : Assigns} (edited : Edited a b) : b.guards = a.guards := by
  obtain ⟨edits,rfl⟩ := edited
  induction edits generalizing a with
  | nil => rfl
  | cons change rest ih => exact ih.trans (guards_edit a change)

end Assigns

/-- The step was taken by a dispatch with these guards. -/
def Step.Carries (guards : List TemplateRef) : Step → Prop
  | .clause _ given _ => given.guards = guards
  | .template _ given => given.guards = guards
  | .hook ref given _ => ref ∉ guards ∧ given.guards = guards ++ [ref]
  | .missed _ given => given.guards = guards
  | .call _ _ => False

theorem Step.Carries.nodup {guards : List TemplateRef} {ref : TemplateRef} {given : Assigns}
    {inner : List Step} (carries : (Step.hook ref given inner).Carries guards)
    (distinct : guards.Nodup) : given.guards.Nodup := by
  obtain ⟨fresh,handed⟩ := carries
  rw [handed,List.nodup_append]
  refine ⟨distinct,by simp,fun guard member last inLast same => ?_⟩
  exact fresh (List.mem_singleton.mp inLast ▸ same ▸ member)

theorem View.Takes.carries {perform : (call : Call) → Run call.Answer} {view : View}
    {template : String} {a : Assigns} {step : Step} (takes : view.Takes perform template a step) :
    step.Carries a.guards := by
  cases takes with
  | clause _ => rfl
  | template _ _ => rfl
  | hook _ _ fresh => exact ⟨fresh,rfl⟩
  | missed _ _ => rfl

namespace Renderer

/-- `last` is made by way of nested calls below `call`, within the clauses and the hooks that these
calls lead to; `active` are the pairs of the hooks, outermost first. Each clause and hook on the
way passes on an edited copy of the assigns it was given. -/
inductive Chain (renderer : Renderer) : Nat → Call → List TemplateRef → Nat → Call → Prop
  | refl {depth : Nat} {call : Call} : Chain renderer depth call [] depth call
  | clause {depth lastDepth : Nat} {call next last : Call} {active : List TemplateRef}
      {ref : TemplateRef} {given : Assigns} {inner taken : List Step} :
      .clause ref given inner ∈ (renderer.run (depth + 1) call).steps →
      .call next taken ∈ inner → Assigns.Edited given next.assigns →
      Chain renderer depth next active lastDepth last →
      Chain renderer (depth + 1) call active lastDepth last
  | hook {depth lastDepth : Nat} {call next last : Call} {active : List TemplateRef}
      {ref : TemplateRef} {given : Assigns} {inner taken : List Step} :
      .hook ref given inner ∈ (renderer.run (depth + 1) call).steps →
      .call next taken ∈ inner → Assigns.Edited given next.assigns →
      Chain renderer depth next active lastDepth last →
      Chain renderer (depth + 1) call (ref :: active) lastDepth last

variable {renderer : Renderer} {depth : Nat} {call : Call}

theorem carries_of_mem_run {step : Step} (member : step ∈ (renderer.run depth call).steps) :
    step.Carries call.assigns.guards := by
  cases depth with
  | zero => contradiction
  | succ depth =>
    have lasting := Run.lasting_steps (Step.Carries call.assigns.guards)
    refine lasting.answer (fun inRendered dispatch taken inDispatch => ?_) step member
    rw [← guards_of_mem_rendered inRendered,← dispatch.guards]
    exact (View.takes_of_mem_renderAlone inDispatch).carries

/-- A miss is soft, or it is how the run ends. -/
def MissesFail (renderer : Renderer) (α : Type) (run : Run α) : Prop :=
  ∀ ref given, .missed ref given ∈ run.steps → given.softRequest = some ref ∨
    ∃ view, renderer.view ref.view = .ok view ∧
      run.outcome = .error (view.undefined ref.template)

theorem lasting_missesFail (renderer : Renderer) : Run.Lasting renderer.MissesFail where
  pure value ref given member := by contradiction
  fail error ref given member := by contradiction
  bind {_ _ run next} first later ref given member := by
    rcases Run.mem_steps_bind member with before | ⟨value,answered,after⟩
    · rcases first ref given before with soft | ⟨view,found,failed⟩
      · exact .inl soft
      · exact .inr ⟨view,found,by rw [Run.bind_of_error failed]⟩
    · rcases later value ref given after with soft | ⟨view,found,failed⟩
      · exact .inl soft
      · exact .inr ⟨view,found,by rw [Run.bind_of_answer answered]; exact failed⟩

theorem missesFail_renderAlone {perform : (call : Call) → Run call.Answer} {view : View}
    {template : String} {a : Assigns} (held : renderer.view view.name = .ok view) :
    renderer.MissesFail _ (view.renderAlone perform template a) := by
  intro ref given member
  cases View.takes_of_mem_renderAlone member with
  | missed _ how => exact how.imp id fun failed => ⟨view,held,failed⟩

theorem missesFail_run : renderer.MissesFail _ (renderer.run depth call) := by
  cases depth with
  | zero => intro ref given member; contradiction
  | succ depth =>
    exact renderer.lasting_missesFail.answer fun _ dispatch =>
      missesFail_renderAlone dispatch.ref.1

/-- The guards grow by the pair of each hook on the way, and by nothing else. -/
theorem Chain.guards {active : List TemplateRef} {lastDepth : Nat} {last : Call}
    (chain : renderer.Chain depth call active lastDepth last) :
    last.assigns.guards = call.assigns.guards ++ active ∧
      (call.assigns.guards.Nodup → last.assigns.guards.Nodup) := by
  induction chain with
  | refl => exact ⟨(List.append_nil _).symm,id⟩
  | clause member _ edited _ ih =>
    have handed := carries_of_mem_run member
    rw [edited.guards,handed] at ih
    exact ih
  | hook member _ edited _ ih =>
    have carries := carries_of_mem_run member
    rw [edited.guards] at ih
    exact ⟨by rw [ih.1,carries.2]; simp,fun distinct => ih.2 (carries.nodup distinct)⟩

/-- A hook below a call has as its guards those of the call, then the pairs of the hooks around it,
then its own pair, and none of them twice unless the call has one twice. For a pair that is guarded
or has its hook around no hook is called again: missing it is soft, or else it is the error of the
call in which it is missed. -/
theorem hook_guards_of_chain {active : List TemplateRef} {lastDepth : Nat} {last : Call}
    (chain : renderer.Chain depth call active lastDepth last) :
    (∀ ref given inner, .hook ref given inner ∈ (renderer.run lastDepth last).steps →
      given.guards = call.assigns.guards ++ active ++ [ref] ∧
      (call.assigns.guards.Nodup → given.guards.Nodup)) ∧
    ∀ ref ∈ call.assigns.guards ++ active,
      (∀ given inner, .hook ref given inner ∉ (renderer.run lastDepth last).steps) ∧
      ∀ given, .missed ref given ∈ (renderer.run lastDepth last).steps →
        given.softRequest = some ref ∨ ∃ view, renderer.view ref.view = .ok view ∧
          (renderer.run lastDepth last).outcome = .error (view.undefined ref.template) := by
  obtain ⟨guards,distinct⟩ := chain.guards
  refine ⟨fun ref given inner member => ?_,fun ref guarded => ⟨fun given inner member => ?_,
    fun given member => missesFail_run ref given member⟩⟩
  · have carries := carries_of_mem_run member
    exact ⟨by rw [carries.2,guards],fun initial => carries.nodup (distinct initial)⟩
  · obtain ⟨fresh,_⟩ := carries_of_mem_run member
    exact fresh (guards ▸ guarded)

/-- A view whose hook asks for `y` where `x` is missing, and for `x` else, with one more value. -/
def bouncingView : View :=
  .bare "A" (by decide) .empty (some fun template given =>
    .call ⟨"A",if template = "x" then "y" else "x",given.insert template .null,.plain⟩ .finish)

def bouncing : Renderer := holding ⟨0,.default⟩ [bouncingView]

/-- On the way from `x` over `y` back to `x` the hook is called for `y` with both pairs, and then
no more. -/
theorem hook_guards_bouncing :
    ∃ middle last, bouncing.Chain 3 ⟨"A","x",.empty,.plain⟩ [⟨"A","x"⟩] 2 middle ∧
      bouncing.Chain 3 ⟨"A","x",.empty,.plain⟩ [⟨"A","x"⟩,⟨"A","y"⟩] 1 last ∧
      (∃ given inner, .hook ⟨"A","y"⟩ given inner ∈ (bouncing.run 2 middle).steps ∧
        given.guards = [⟨"A","x"⟩,⟨"A","y"⟩]) ∧
      ∃ view, bouncing.view "A" = .ok view ∧
        (bouncing.run 1 last).outcome = .error (view.undefined "x") := by
  have toMiddle : bouncing.Chain 3 ⟨"A","x",.empty,.plain⟩ [⟨"A","x"⟩] 2 _ :=
    .hook List.mem_cons_self List.mem_cons_self ⟨[.insert "x" .null],rfl⟩ .refl
  have toLast : bouncing.Chain 3 ⟨"A","x",.empty,.plain⟩ [⟨"A","x"⟩,⟨"A","y"⟩] 1 _ :=
    .hook List.mem_cons_self List.mem_cons_self ⟨[.insert "x" .null],rfl⟩
      (.hook List.mem_cons_self List.mem_cons_self ⟨[.insert "y" .null],rfl⟩ .refl)
  refine ⟨_,_,toMiddle,toLast,⟨_,_,List.mem_cons_self,?_⟩,?_⟩
  · exact ((hook_guards_of_chain toMiddle).1 _ _ _ List.mem_cons_self).1
  · have missed := ((hook_guards_of_chain toLast).2 ⟨"A","x"⟩ (by simp)).2 _ List.mem_cons_self
    exact missed.resolve_left nofun

end Renderer

end ViewTemplates
