import Mathlib.Data.Finset.Card
import ViewTemplates.Proofs.Depth
import ViewTemplates.Proofs.GuardChain

/-! Hooks that call back end. Every hook that is called adds its pair to the guards, and no hook is
called for a guarded pair; so the pairs of a finite set that are not guarded yet bound both how
deep calls nest and how many hooks are called within each other. Render clauses that call back are
left out: nothing guards them. -/
namespace ViewTemplates

mutual

def Step.hookNesting : Step → Nat
  | .clause _ _ inner => Step.hookNestingAll inner
  | .template _ _ => 0
  | .hook _ _ inner => Step.hookNestingAll inner + 1
  | .missed _ _ => 0
  | .call _ inner => Step.hookNestingAll inner

def Step.hookNestingAll : List Step → Nat
  | [] => 0
  | step :: rest => max (Step.hookNesting step) (Step.hookNestingAll rest)

end

theorem Step.hookNestingAll_le_iff {steps : List Step} {bound : Nat} :
    Step.hookNestingAll steps ≤ bound ↔ ∀ step ∈ steps, step.hookNesting ≤ bound := by
  induction steps with
  | nil => simp [hookNestingAll]
  | cons step rest ih => simp [hookNestingAll,ih]

namespace Action

/-- The action makes the call, where the answers to its calls are those of `perform`. -/
def Makes (perform : (call : Call) → Run call.Answer) (action : Action) (call : Call) : Prop :=
  ∃ taken, .call call taken ∈ (action.run perform).steps

variable {perform : (call : Call) → Run call.Answer}

/-- A step of an action that makes a call is the call, or one of what goes on with its result. -/
theorem eq_call_or_mem_next {first : Call} {next : Except RenderError first.Answer → Action}
    {step : Step} (member : step ∈ ((call first next).run perform).steps) :
    step = .call first (perform first).steps ∨
      ∃ result, step ∈ ((next result).run perform).steps := by
  by_cases finished : ((perform first).inside (.call first)).Finished
  · obtain ⟨result,goesOn⟩ := finished.attempt
    rw [run,goesOn] at member
    exact (List.mem_append.mp member).imp List.mem_singleton.mp fun later => ⟨result,later⟩
  · rw [run,Run.attempt_of_exhausted (Classical.not_not.mp finished)] at member
    exact .inl (List.mem_singleton.mp member)

theorem eq_call_of_mem_run {action : Action} {step : Step}
    (member : step ∈ (action.run perform).steps) :
    ∃ call, action.Makes perform call ∧ step = .call call (perform call).steps := by
  suffices ∃ call, step = .call call (perform call).steps by
    obtain ⟨call,rfl⟩ := this
    exact ⟨call,⟨_,member⟩,rfl⟩
  induction action with
  | finish result => cases result <;> contradiction
  | call call next ih =>
    rcases eq_call_or_mem_next member with here | ⟨result,later⟩
    · exact ⟨call,here⟩
    · exact ih result later

theorem eq_of_makes_once {first other : Call}
    {pass : Except RenderError first.Answer → Except RenderError Rendered}
    (made : (Action.call first fun result => .finish (pass result)).Makes perform other) :
    other = first := by
  obtain ⟨taken,member⟩ := made
  rcases eq_call_or_mem_next member with here | ⟨result,later⟩
  · exact (Step.call.inj here).1
  · rcases passed : pass result with error | rendered <;> rw [passed] at later <;> contradiction

theorem finished_of_made {action : Action}
    (finished : ∀ call, action.Makes perform call → (perform call).Finished) :
    (action.run perform).Finished := by
  induction action with
  | finish result => cases result <;> exact nofun
  | call call next ih =>
    have first : ((perform call).inside (.call call)).Finished :=
      finished call ⟨_,Run.mem_steps_attempt List.mem_cons_self⟩
    obtain ⟨result,goesOn⟩ := first.attempt
    rw [run,goesOn]
    refine ih result fun later ⟨taken,member⟩ => finished later ⟨taken,?_⟩
    rw [run,goesOn]
    exact List.mem_append_right _ member

end Action

namespace Renderer

/-- The call asks for a template among the names, and every layout that a rendering of it has is
among them. An item that is bound under the key of layouts is the layout of its rendering. -/
def Within (renderer : Renderer) (names : Finset TemplateRef) (call : Call) : Prop :=
  ⟨call.view,call.template⟩ ∈ names ∧ ∀ given ∈ renderer.rendered call, ∀ layout,
    given.takeLayout.1 = .ok (some layout) → layout ∈ names

/-- No clause calls back, and whatever a hook is called with, the calls it makes are among the
names, with assigns that keep the guards it was given. No hook is called with a layout. -/
structure Confined (renderer : Renderer) (names : Finset TemplateRef) : Prop where
  clauses : ∀ {name template : String} {view : View} {clause : Clause},
    renderer.view name = .ok view → view.clauses.find? template = some clause →
      ∀ given depth next, ¬(clause given).Makes (renderer.run depth) next
  hooks : ∀ {name : String} {view : View} {hook : Hook},
    renderer.view name = .ok view → view.notFound = some hook →
      ∀ template given, given.get? Assigns.layoutKey = none →
        ∀ depth next, (hook template given).Makes (renderer.run depth) next →
          renderer.Within names next ∧ given.guards ⊆ next.assigns.guards

/-- The names that are not guarded yet. -/
def unguarded (names : Finset TemplateRef) (guards : List TemplateRef) : Finset TemplateRef :=
  names.filter (· ∉ guards)

theorem card_unguarded_le (names : Finset TemplateRef) (guards : List TemplateRef) :
    (unguarded names guards).card ≤ names.card :=
  Finset.card_le_card (Finset.filter_subset _ names)

/-- A new guard leaves fewer names, also when more guards are added to it. -/
theorem card_unguarded_lt {names : Finset TemplateRef} {guards kept : List TemplateRef}
    {ref : TemplateRef} (named : ref ∈ names) (fresh : ref ∉ guards)
    (keeps : guards ++ [ref] ⊆ kept) :
    (unguarded names kept).card < (unguarded names guards).card := by
  apply Finset.card_lt_card
  refine Finset.ssubset_iff_subset_ne.mpr ⟨fun other member => ?_,fun same => ?_⟩
  · obtain ⟨inNames,unmarked⟩ := Finset.mem_filter.mp member
    exact Finset.mem_filter.mpr
      ⟨inNames,fun guarded => unmarked (keeps (List.mem_append_left _ guarded))⟩
  · have member : ref ∈ unguarded names guards := Finset.mem_filter.mpr ⟨named,fresh⟩
    rw [← same] at member
    exact (Finset.mem_filter.mp member).2 (keeps (List.mem_append_right _ List.mem_cons_self))

variable {renderer : Renderer} {names : Finset TemplateRef} {call : Call}

theorem Within.asked (within : renderer.Within names call) {given taken : Assigns} {owner : View}
    {asked : String} (member : given ∈ renderer.rendered call)
    (dispatch : renderer.Dispatches call.view call.template given owner asked taken) :
    ⟨owner.name,asked⟩ ∈ names := by
  rcases dispatch.ref.2 with own | layout
  · exact own ▸ within.1
  · exact within.2 given member _ layout

/-- What the hook of a dispatch goes on with leaves fewer names than the call had. -/
theorem Confined.hook_call (confined : renderer.Confined names) (within : renderer.Within names call)
    {given taken : Assigns} {owner : View} {asked : String} {hook : Hook} {depth : Nat}
    {next : Call} (member : given ∈ renderer.rendered call)
    (dispatch : renderer.Dispatches call.view call.template given owner asked taken)
    (found : owner.notFound = some hook) (fresh : ⟨owner.name,asked⟩ ∉ taken.guards)
    (made : (hook asked { taken with guards := taken.guards ++ [⟨owner.name,asked⟩] }).Makes
      (renderer.run depth) next) :
    renderer.Within names next ∧ (unguarded names next.assigns.guards).card <
      (unguarded names call.assigns.guards).card := by
  have bare : Assigns.get? { taken with guards := taken.guards ++ [⟨owner.name,asked⟩] }
    Assigns.layoutKey = none := dispatch.layout
  obtain ⟨inside,keeps⟩ := confined.hooks dispatch.ref.1 found _ _ bare depth next made
  have guards : taken.guards = call.assigns.guards :=
    dispatch.guards.trans (guards_of_mem_rendered member)
  rw [← guards]
  exact ⟨inside,card_unguarded_lt (within.asked member dispatch) fresh keeps⟩

/-- The names that are not guarded yet bound how deep calls nest. -/
theorem finished_of_unguarded (confined : renderer.Confined names)
    (within : renderer.Within names call) {depth : Nat}
    (enough : (unguarded names call.assigns.guards).card < depth) :
    (renderer.run depth call).Finished := by
  induction depth generalizing call with
  | zero => exact absurd enough (Nat.not_lt_zero _)
  | succ depth ih =>
    refine Run.lasting_finished.answer fun {given owner asked taken} member dispatch => ?_
    cases owner.decision asked taken with
    | clause clause found =>
      rw [View.renderAlone_of_clause found]
      refine Run.lasting_finished.map some (Action.finished_of_made fun next made => ?_)
      exact absurd made (confined.clauses dispatch.ref.1 found taken depth next)
    | template compiled unclaimed found =>
      rw [View.renderAlone_of_template unclaimed found]
      exact Run.lasting_finished.map some (Run.finished_ofExcept _)
    | soft missing tagged =>
      rw [View.renderAlone_of_soft missing tagged]
      exact nofun
    | hook hook missing untagged found fresh =>
      rw [View.renderAlone_of_hook missing untagged found fresh]
      refine Run.lasting_finished.map some (Action.finished_of_made fun next made => ?_)
      -- The pair of the hook is guarded from here on, so one depth less is enough.
      obtain ⟨inside,fewer⟩ := confined.hook_call within member dispatch found fresh made
      exact ih inside (by omega)
    | undefined missing untagged uncalled =>
      rw [View.renderAlone_of_undefined missing untagged uncalled]
      exact nofun

/-- The names that are not guarded yet bound how many hooks are called within each other. -/
theorem hookNesting_le_unguarded (confined : renderer.Confined names)
    (within : renderer.Within names call) {depth : Nat} :
    ∀ step ∈ (renderer.run depth call).steps,
      step.hookNesting ≤ (unguarded names call.assigns.guards).card := by
  induction depth generalizing call with
  | zero => exact nofun
  | succ depth ih =>
    let bound := (unguarded names call.assigns.guards).card
    refine (Run.lasting_steps (·.hookNesting ≤ bound)).answer
      fun {given owner asked taken} member dispatch step inSteps => ?_
    cases View.takes_of_mem_renderAlone inSteps with
    | clause found =>
      refine Step.hookNestingAll_le_iff.mpr fun inner inInner => ?_
      obtain ⟨next,made,_⟩ := Action.eq_call_of_mem_run inInner
      exact absurd made (confined.clauses dispatch.ref.1 found taken depth next)
    | template unclaimed found => exact Nat.zero_le bound
    | hook missing found fresh =>
      have guards : taken.guards = call.assigns.guards :=
        dispatch.guards.trans (guards_of_mem_rendered member)
      -- The pair itself is a name that is not guarded yet, so this hook counts within the bound.
      have positive : 0 < bound := Finset.card_pos.mpr
        ⟨_,Finset.mem_filter.mpr ⟨within.asked member dispatch,guards ▸ fresh⟩⟩
      have below : Step.hookNestingAll _ ≤ bound - 1 :=
        Step.hookNestingAll_le_iff.mpr fun inner inInner => by
          obtain ⟨next,made,rfl⟩ := Action.eq_call_of_mem_run inInner
          obtain ⟨inside,fewer⟩ := confined.hook_call within member dispatch found fresh made
          exact (Step.hookNestingAll_le_iff.mpr (ih inside)).trans (Nat.le_pred_of_lt fewer)
      exact Nat.add_le_of_le_sub positive below
    | missed missing how => exact Nat.zero_le bound

/-- Where no clause calls back and hooks call back for a finite set of names only, every call for
these names returns, by a run that no greater depth changes, and at most as many hooks are called
within each other as there are names. -/
theorem confined_call_returns (confined : renderer.Confined names)
    (within : renderer.Within names call) :
    ∃ result, result.Finished ∧ (∀ depth, names.card < depth → renderer.run depth call = result) ∧
      ∀ depth, ∀ step ∈ (renderer.run depth call).steps, step.hookNesting ≤ names.card := by
  have fewer := card_unguarded_le names call.assigns.guards
  have finished : (renderer.run (names.card + 1) call).Finished :=
    finished_of_unguarded confined within (Nat.lt_succ_of_le fewer)
  refine ⟨_,finished,fun depth enough => run_of_le enough finished,fun depth step member => ?_⟩
  exact (hookNesting_le_unguarded confined within step member).trans fewer

/-- The hook of `bouncing` asks for two names only, so it is called at most twice in itself. -/
theorem bouncing_call_returns :
    bouncing.Confined {⟨"A","x"⟩,⟨"A","y"⟩} ∧
      bouncing.Within {⟨"A","x"⟩,⟨"A","y"⟩} ⟨"A","x",.empty,.text⟩ ∧
      ∃ result, result.Finished ∧
        (∀ depth, 2 < depth → bouncing.run depth ⟨"A","x",.empty,.text⟩ = result) ∧
        ∀ depth, ∀ step ∈ (bouncing.run depth ⟨"A","x",.empty,.text⟩).steps,
          step.hookNesting ≤ 2 := by
  have only {name : String} {view : View} (found : bouncing.view name = .ok view) :
      view = bouncingView := by
    by_cases same : name = "A"
    · subst same
      exact (Except.ok.inj found).symm
    · simp [Renderer.view,bouncing,holding,bouncingView,View.bare,same] at found
  have confined : bouncing.Confined {⟨"A","x"⟩,⟨"A","y"⟩} := by
    refine ⟨fun found claimed => ?_,fun found hooked template given bare depth next made => ?_⟩
    · rw [only found] at claimed
      contradiction
    · rw [only found] at hooked
      cases hooked
      cases Action.eq_of_makes_once made
      refine ⟨⟨?_,fun rendered member layout named => ?_⟩,List.Subset.refl _⟩
      · by_cases first : template = "x" <;> simp [first]
      · cases List.mem_singleton.mp member
        by_cases same : Assigns.layoutKey = template <;>
          simp [Assigns.takeLayout,same,bare,TemplateRef.ofLayout?] at named
  have within : bouncing.Within {⟨"A","x"⟩,⟨"A","y"⟩} ⟨"A","x",.empty,.text⟩ := by
    refine ⟨by decide,fun given member layout named => ?_⟩
    cases List.mem_singleton.mp member
    have noLayout : none = some layout := Except.ok.inj named
    contradiction
  exact ⟨confined,within,confined_call_returns confined within⟩

end Renderer

end ViewTemplates
