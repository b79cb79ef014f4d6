import ViewTemplates.Proofs.Runs

/-! The dispatches of a call: which view is asked for which template, and with which assigns. What
holds of the run of every dispatch, and lasts, holds of the run of the call. -/
namespace ViewTemplates

/-- The assigns for a layout around what was rendered, if anything was. -/
def Assigns.withInnerContent (a : Assigns) (inner : Option Rendered) : Assigns :=
  { a with innerContent := inner }

namespace Renderer

theorem name_of_view {renderer : Renderer} {name : String} {view : View}
    (found : renderer.view name = .ok view) : view.name = name := by
  unfold Renderer.view at found
  split at found
  next held => exact Except.ok.inj found ▸ renderer.named _ _ held
  next => contradiction

/-- The renderer of some views; of two views with one name the first counts. -/
def holding (registry : Registry.Instance) : List View → Renderer
  | [] => ⟨registry,.empty,named_empty⟩
  | view :: rest =>
    let others := holding registry rest
    ⟨registry,others.views.insert view.name view,named_insert others.named view⟩

theorem eq_of_view_holding {registry : Registry.Instance} {only view : View} {name : String}
    (found : (holding registry [only]).view name = .ok view) : view = only := by
  simp only [Renderer.view,holding,KeyMap.find?_insert,KeyMap.find?_empty] at found
  split at found
  next held =>
    split at held
    · exact (Except.ok.inj found).symm.trans (Option.some.inj held).symm
    · contradiction
  next => contradiction

/-- The assigns with one item each bound under the key of items. -/
def bound (renderer : Renderer) (view : String) (a : Assigns) (items : List Item) :
    List Assigns :=
  match renderer.itemKey view a with
  | .ok key => items.filterMap fun item : Item => item.toOption.map (a.insert key)
  | .error _ => []

/-- The assigns that a call renders its template with: its own, or those of every item. -/
def rendered (renderer : Renderer) (call : Call) : List Assigns :=
  match call.request with
  | .plain | .output | .text => [call.assigns]
  | .existing => [call.assigns.setSoftRequest ⟨call.view,call.template⟩]
  | .layout content => [call.assigns.setInnerContent content]
  | .many items => renderer.bound call.view call.assigns items
  | .one item => renderer.bound call.view call.assigns item.toList

/-- A dispatch of a rendering: of the template itself, or of the layout around it. -/
inductive Dispatches (renderer : Renderer) (view template : String) (a : Assigns) :
    View → String → Assigns → Prop
  | own {owner : View} : renderer.view view = .ok owner →
      Dispatches renderer view template a owner template (a.erase Assigns.layoutKey)
  | around {owner : View} {layout : TemplateRef} (inner : Option Rendered) :
      a.takeLayout.1 = .ok (some layout) → renderer.view layout.view = .ok owner →
      Dispatches renderer view template a owner layout.template
        ((a.erase Assigns.layoutKey).withInnerContent inner)

/-- A rendering asks a view that is held for the template itself or for its layout. -/
theorem Dispatches.ref {renderer : Renderer} {view template asked : String} {a given : Assigns}
    {owner : View} (dispatch : renderer.Dispatches view template a owner asked given) :
    renderer.view owner.name = .ok owner ∧
      ((⟨owner.name,asked⟩ : TemplateRef) = ⟨view,template⟩ ∨
        a.takeLayout.1 = .ok (some ⟨owner.name,asked⟩)) := by
  cases dispatch with
  | own found =>
    have name := name_of_view found
    exact ⟨name ▸ found,.inl (by rw [name])⟩
  | around inner taken found =>
    have name := name_of_view found
    exact ⟨name ▸ found,.inr (by rw [name]; exact taken)⟩

theorem Dispatches.guards {renderer : Renderer} {view template asked : String}
    {a given : Assigns} {owner : View}
    (dispatch : renderer.Dispatches view template a owner asked given) :
    given.guards = a.guards := by
  cases dispatch <;> rfl

theorem Dispatches.layout {renderer : Renderer} {view template asked : String}
    {a given : Assigns} {owner : View}
    (dispatch : renderer.Dispatches view template a owner asked given) :
    given.get? Assigns.layoutKey = none := by
  have erased : (a.erase Assigns.layoutKey).get? Assigns.layoutKey = none := by simp
  cases dispatch <;> exact erased

theorem mem_bound {renderer : Renderer} {view key : String} {a : Assigns} {items : List Item}
    (chosen : renderer.itemKey view a = .ok key) {value : Json} (member : .ok value ∈ items) :
    a.insert key value ∈ renderer.bound view a items := by
  rw [bound,chosen]
  exact List.mem_filterMap.mpr ⟨.ok value,member,rfl⟩

theorem guards_of_mem_bound {renderer : Renderer} {view : String} {a given : Assigns}
    {items : List Item} (member : given ∈ renderer.bound view a items) :
    given.guards = a.guards := by
  unfold bound at member
  split at member
  next key _ =>
    obtain ⟨item,_,made⟩ := List.mem_filterMap.mp member
    obtain ⟨value,_,rfl⟩ := Option.map_eq_some_iff.mp made
    rfl
  next => contradiction

theorem guards_of_mem_rendered {renderer : Renderer} {call : Call} {given : Assigns}
    (member : given ∈ renderer.rendered call) : given.guards = call.assigns.guards := by
  obtain ⟨view,template,assigns,request⟩ := call
  cases request with
  | plain | output | text => exact List.mem_singleton.mp member ▸ rfl
  | existing => exact List.mem_singleton.mp member ▸ rfl
  | layout content => exact List.mem_singleton.mp member ▸ rfl
  | many items => exact guards_of_mem_bound member
  | one item => exact guards_of_mem_bound member

section

variable {renderer : Renderer} {perform : (call : Call) → Run call.Answer}
  {view template : String} {a : Assigns}

theorem renderIfPresent_of_invalid {value : Json} (taken : a.takeLayout.1 = .error value) :
    renderer.renderIfPresent perform view template a = .fail (.invalidLayout value) := by
  simp [renderIfPresent,taken]

theorem renderIfPresent_of_unknown {layout : Option TemplateRef} {error : RenderError}
    (taken : a.takeLayout.1 = .ok layout) (unknown : renderer.view view = .error error) :
    renderer.renderIfPresent perform view template a = .fail error := by
  simp [renderIfPresent,taken,unknown]

theorem renderIfPresent_of_none {owner : View} (taken : a.takeLayout.1 = .ok none)
    (found : renderer.view view = .ok owner) :
    renderer.renderIfPresent perform view template a =
      owner.renderAlone perform template (a.erase Assigns.layoutKey) := by
  simp [renderIfPresent,taken,found]

theorem renderIfPresent_of_unknown_layout {owner : View} {layout : TemplateRef}
    {error : RenderError} (taken : a.takeLayout.1 = .ok (some layout))
    (found : renderer.view view = .ok owner)
    (unknown : renderer.view layout.view = .error error) :
    renderer.renderIfPresent perform view template a = .fail error := by
  simp [renderIfPresent,taken,found,unknown]

/-- The layout is rendered with the assigns of the template, but for the inner content. -/
theorem renderIfPresent_of_layout {owner layoutView : View} {layout : TemplateRef}
    (taken : a.takeLayout.1 = .ok (some layout)) (found : renderer.view view = .ok owner)
    (held : renderer.view layout.view = .ok layoutView) :
    renderer.renderIfPresent perform view template a =
      owner.renderAlone perform template (a.erase Assigns.layoutKey) >>= fun inner =>
        layoutView.renderAlone perform layout.template
          ((a.erase Assigns.layoutKey).withInnerContent inner) := by
  simp only [renderIfPresent,taken,found,held,Run.ofExcept_mapError_ok,Run.ofExcept_ok,pure_bind,
    Assigns.takeLayout_snd]
  refine congrArg _ (funext fun inner => ?_)
  cases inner <;> rfl

end

end Renderer

namespace Run

open Renderer

variable {R : (α : Type) → Run α → Run α → Prop} {renderer : Renderer}
  {perform other : (call : Call) → Run call.Answer} {view template key : String} {a : Assigns}

/-- The two runs of every dispatch of a rendering are related. -/
def DispatchesRelated (R : (α : Type) → Run α → Run α → Prop) (renderer : Renderer)
    (perform other : (call : Call) → Run call.Answer) (view template : String)
    (a : Assigns) : Prop :=
  ∀ {owner : View} {asked : String} {given : Assigns},
    renderer.Dispatches view template a owner asked given →
      R _ (owner.renderAlone perform asked given) (owner.renderAlone other asked given)

namespace Congruence

theorem renderIfPresent (congruence : Congruence R)
    (related : DispatchesRelated R renderer perform other view template a) :
    R _ (renderer.renderIfPresent perform view template a)
      (renderer.renderIfPresent other view template a) := by
  rcases taken : a.takeLayout.1 with value | layout
  · rw [renderIfPresent_of_invalid taken,renderIfPresent_of_invalid taken]
    exact congruence.fail _
  rcases found : renderer.view view with error | owner
  · rw [renderIfPresent_of_unknown taken found,renderIfPresent_of_unknown taken found]
    exact congruence.fail error
  have own := related (.own found)
  rcases layout with _ | layout
  · rw [renderIfPresent_of_none taken found,renderIfPresent_of_none taken found]
    exact own
  rcases held : renderer.view layout.view with error | layoutView
  · rw [renderIfPresent_of_unknown_layout taken found held,
      renderIfPresent_of_unknown_layout taken found held]
    exact congruence.fail error
  rw [renderIfPresent_of_layout taken found held,renderIfPresent_of_layout taken found held]
  exact congruence.bind own fun inner => related (.around inner taken held)

theorem renderPlain (congruence : Congruence R)
    (related : DispatchesRelated R renderer perform other view template a) :
    R _ (renderer.renderPlain perform view template a)
      (renderer.renderPlain other view template a) := by
  refine congruence.bind (congruence.renderIfPresent related) fun rendered => ?_
  rcases rendered with _ | rendered
  · exact congruence.bind (congruence.ofExcept _) fun owner => congruence.fail _
  · exact congruence.pure rendered

theorem renderItems (congruence : Congruence R) {items : List Item}
    (related : ∀ {value : Json}, .ok value ∈ items →
      DispatchesRelated R renderer perform other view template (a.insert key value)) :
    R _ (renderer.renderItems perform view template a key items)
      (renderer.renderItems other view template a key items) := by
  induction items with
  | nil => exact congruence.pure []
  | cons item rest ih =>
    rcases item with reason | value
    · exact congruence.fail (.serialization reason)
    · have first := congruence.renderPlain (related List.mem_cons_self)
      have others := ih fun member => related (List.mem_cons_of_mem _ member)
      simp only [Renderer.renderItems,ofExcept_mapError_ok,pure_bind]
      exact congruence.bind first fun _ => congruence.bind others fun _ => congruence.pure _

theorem renderMany (congruence : Congruence R) {items : List Item}
    (related : ∀ {given : Assigns}, given ∈ renderer.bound view a items →
      DispatchesRelated R renderer perform other view template given) :
    R _ (renderer.renderMany perform view template a items)
      (renderer.renderMany other view template a items) := by
  rcases chosen : renderer.itemKey view a with error | key
  · simp only [Renderer.renderMany,chosen,ofExcept_error,fail_bind]
    exact congruence.fail error
  · simp only [Renderer.renderMany,chosen,ofExcept_ok,pure_bind]
    exact congruence.renderItems fun member => related (mem_bound chosen member)

theorem renderOutput (congruence : Congruence R)
    (related : DispatchesRelated R renderer perform other view template a) :
    R _ (renderer.renderOutput perform view template a)
      (renderer.renderOutput other view template a) := by
  refine congruence.bind (congruence.renderPlain related) fun rendered => ?_
  rcases renderer.registry.registry.encoder? template with _ | encoder
  · exact congruence.pure _
  · exact congruence.bind (congruence.ofExcept _) fun bytes => congruence.pure _

variable (perform other) in
/-- Two runs of a call are related when those of its dispatches are. -/
theorem answer (congruence : Congruence R) {call : Call}
    (related : ∀ {given : Assigns}, given ∈ renderer.rendered call →
      DispatchesRelated R renderer perform other call.view call.template given) :
    R _ (renderer.answer perform call) (renderer.answer other call) := by
  obtain ⟨view,template,assigns,request⟩ := call
  cases request with
  | plain => exact congruence.renderPlain (related (List.mem_singleton.mpr rfl))
  | existing => exact congruence.renderIfPresent (related (List.mem_singleton.mpr rfl))
  | layout content => exact congruence.renderPlain (related (List.mem_singleton.mpr rfl))
  | many items => exact congruence.renderMany related
  | one item =>
    rcases item with _ | item
    · exact congruence.pure none
    · exact congruence.map _ (congruence.renderMany related)
  | output => exact congruence.renderOutput (related (List.mem_singleton.mpr rfl))
  | text =>
    refine congruence.bind (congruence.renderOutput (related (List.mem_singleton.mpr rfl)))
      fun output => ?_
    exact congruence.ofExcept _

end Congruence

/-- What lasts and holds of the run of every dispatch holds of the run of the call. -/
theorem Lasting.answer {P : (α : Type) → Run α → Prop} (lasting : Lasting P) {call : Call}
    (held : ∀ {given : Assigns} {owner : View} {asked : String} {taken : Assigns},
      given ∈ renderer.rendered call →
      renderer.Dispatches call.view call.template given owner asked taken →
      P _ (owner.renderAlone perform asked taken)) :
    P _ (renderer.answer perform call) :=
  lasting.congruence.answer perform perform fun member _ _ _ dispatch => held member dispatch

end Run

end ViewTemplates
