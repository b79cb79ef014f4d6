import ViewTemplates.Proofs.Decision
import ViewTemplates.Proofs.Dispatch

/-! Rendering in a layout. With no soft tag it is the rendering of the template, and then that of
the layout around its value. With the tag of a soft request the layout itself can be missed: then,
and only then, a rendering in a layout has no value. -/
namespace ViewTemplates

namespace View

variable {view : View} {template : String} {a : Assigns}
  {perform : (call : Call) → Run call.Answer}

/-- Only a soft miss has no value. -/
theorem soft_or_eq_map_some :
    (view.hasTemplate template = false ∧ a.softRequest = some ⟨view.name,template⟩) ∨
      ∃ run : Run Rendered, view.renderAlone perform template a = some <$> run := by
  cases view.decision template a with
  | clause clause found => exact .inr ⟨_,renderAlone_of_clause found⟩
  | template compiled unclaimed found => exact .inr ⟨_,renderAlone_of_template unclaimed found⟩
  | soft missing tagged => exact .inl ⟨missing,tagged⟩
  | hook hook missing untagged found fresh =>
    exact .inr ⟨_,renderAlone_of_hook missing untagged found fresh⟩
  | undefined missing untagged uncalled =>
    refine .inr ⟨(Run.fail (view.undefined template)).inside fun _ =>
      .missed ⟨view.name,template⟩ a,?_⟩
    rw [renderAlone_of_undefined missing untagged uncalled]
    rfl

theorem renderAlone_eq_none_iff :
    (view.renderAlone perform template a).outcome = .answer none ↔
      view.hasTemplate template = false ∧ a.softRequest = some ⟨view.name,template⟩ := by
  constructor
  · intro answered
    rcases view.soft_or_eq_map_some with soft | ⟨run,same⟩
    · exact soft
    · rw [same] at answered
      obtain ⟨value,_,impossible⟩ := Run.outcome_map_eq_answer_iff.mp answered
      contradiction
  · rintro ⟨missing,tagged⟩
    rw [renderAlone_of_soft missing tagged]
    rfl

end View

namespace Renderer

variable {renderer : Renderer} {perform : (call : Call) → Run call.Answer}
  {view template : String} {a : Assigns} {owner : View} {layout : TemplateRef} {depth : Nat}

theorem view_of_contains (registered : renderer.views.contains view = true) :
    ∃ owner, renderer.view view = .ok owner := by
  obtain ⟨owner,held⟩ := Option.isSome_iff_exists.mp registered
  exact ⟨owner,by rw [Renderer.view,held]⟩

theorem view_of_not_contains (unregistered : renderer.views.contains view = false) :
    renderer.view view = .error (.unknownView view) := by
  have absent : renderer.views.find? view = none := by
    simpa [KeyMap.contains] using unregistered
  rw [Renderer.view,absent]

theorem renderPlain_of_eq_map_some {run : Run Rendered}
    (same : renderer.renderIfPresent perform view template a = some <$> run) :
    renderer.renderPlain perform view template a = run := by
  rw [renderPlain,same]
  simp

theorem map_some_renderPlain_of_ne_none
    (present : (renderer.renderIfPresent perform view template a).outcome ≠ .answer none) :
    some <$> renderer.renderPlain perform view template a =
      renderer.renderIfPresent perform view template a := by
  rw [renderPlain,map_bind]
  refine Run.bind_eq_self fun rendered answered => ?_
  rcases rendered with _ | rendered
  · exact absurd answered present
  · rfl

/-- With no layout and no soft tag a rendering is the dispatch of the template. -/
theorem map_some_renderPlain (bare : a.get? Assigns.layoutKey = none)
    (untagged : a.softRequest = none) (found : renderer.view view = .ok owner) :
    some <$> renderer.renderPlain perform view template a =
      owner.renderAlone perform template (a.erase Assigns.layoutKey) := by
  have dispatched : renderer.renderIfPresent perform view template a =
      owner.renderAlone perform template (a.erase Assigns.layoutKey) :=
    renderIfPresent_of_none (Assigns.takeLayout_of_get?_eq_none bare) found
  rw [← dispatched]
  refine map_some_renderPlain_of_ne_none fun missed => ?_
  rw [dispatched] at missed
  have tagged : a.softRequest = _ := (View.renderAlone_eq_none_iff.mp missed).2
  rw [untagged] at tagged
  contradiction

/-- Rendering in a layout is rendering, and then rendering the layout around the value. -/
theorem renderPlain_withLayout (bare : a.get? Assigns.layoutKey = none)
    (untagged : a.softRequest = none) (registered : renderer.views.contains view = true)
    (held : renderer.views.contains layout.view = true) :
    renderer.renderPlain perform view template (a.withLayout layout.view layout.template) =
      renderer.renderPlain perform view template a >>= fun content =>
        renderer.renderPlain perform layout.view layout.template (a.setInnerContent content) := by
  obtain ⟨owner,found⟩ := view_of_contains registered
  obtain ⟨layoutView,foundLayout⟩ := view_of_contains held
  have taken := a.takeLayout_withLayout (name_of_view foundLayout ▸ layoutView.nameValid)
  -- Either way the layout is given the assigns without a layout, around the same value.
  have around (content : Rendered) :
      layoutView.renderAlone perform layout.template
          ((a.erase Assigns.layoutKey).withInnerContent (some content)) =
        some <$> renderer.renderPlain perform layout.view layout.template
          (a.setInnerContent content) :=
    (map_some_renderPlain (a := a.setInnerContent content) bare untagged foundLayout).symm
  apply renderPlain_of_eq_map_some
  calc renderer.renderIfPresent perform view template (a.withLayout layout.view layout.template)
      = owner.renderAlone perform template (a.erase Assigns.layoutKey) >>= fun inner =>
          layoutView.renderAlone perform layout.template
            ((a.erase Assigns.layoutKey).withInnerContent inner) := by
        rw [renderIfPresent_of_layout taken found foundLayout,Assigns.erase_withLayout]
    _ = renderer.renderPlain perform view template a >>= fun content =>
          some <$> renderer.renderPlain perform layout.view layout.template
            (a.setInnerContent content) := by
        rw [← map_some_renderPlain bare untagged found]
        simp [around]
    _ = some <$> (renderer.renderPlain perform view template a >>= fun content =>
          renderer.renderPlain perform layout.view layout.template
            (a.setInnerContent content)) := by
        simp

/-- With a layout in assigns that have neither a layout nor a soft tag, a call is the call without
the layout followed by a call of the layout around its value: the same result, by the same steps.
A layout of a view that is not held is an error before anything is called. -/
theorem run_withLayout (bare : a.get? Assigns.layoutKey = none) (untagged : a.softRequest = none)
    (registered : renderer.views.contains view = true) (depth : Nat) (template : String)
    (layout : TemplateRef) :
    (renderer.views.contains layout.view = true →
      renderer.run depth ⟨view,template,a.withLayout layout.view layout.template,.plain⟩ =
        (renderer.run depth ⟨view,template,a,.plain⟩ : Run Rendered) >>= fun content =>
          renderer.run depth ⟨layout.view,layout.template,a,.layout content⟩) ∧
    (Naming.isViewName layout.view = true → renderer.views.contains layout.view = false →
      renderer.run (depth + 1) ⟨view,template,a.withLayout layout.view layout.template,.plain⟩ =
        .fail (.unknownView layout.view)) := by
  constructor
  · intro held
    cases depth with
    | zero => rfl
    | succ depth => exact renderPlain_withLayout bare untagged registered held
  · intro valid unregistered
    obtain ⟨owner,found⟩ := view_of_contains registered
    have unknown := view_of_not_contains unregistered
    change renderer.renderPlain _ view template _ = _
    rw [renderPlain,renderIfPresent_of_unknown_layout (a.takeLayout_withLayout valid) found unknown]
    rfl

def framingView : View :=
  .bare "Site" (by decide)
    (KeyMap.empty.insert "page" fun given => .finish (.ok (.data given.toJson)))
    (some fun template _ => .finish (.ok (.safe template)))

def framing : Renderer := holding ⟨0,.default⟩ [framingView]

/-- A missing template goes through the hook, and the clause then frames what it gave. -/
theorem run_withLayout_framing :
    (framing.run 1 ⟨"Site","x",Assigns.empty.withLayout "Site" "page",.plain⟩ =
      (framing.run 1 ⟨"Site","x",.empty,.plain⟩ : Run Rendered) >>= fun content =>
        framing.run 1 ⟨"Site","page",.empty,.layout content⟩) ∧
    (framing.run 1 ⟨"Site","x",Assigns.empty.withLayout "Site" "page",.plain⟩).steps.length = 2 ∧
    framing.run 1 ⟨"Site","x",Assigns.empty.withLayout "Other" "page",.plain⟩ =
      .fail (.unknownView "Other") := by
  have registered : framing.views.contains "Site" = true := rfl
  refine ⟨?_,rfl,?_⟩
  · exact (run_withLayout rfl rfl registered 1 "x" ⟨"Site","page"⟩).1 registered
  · exact (run_withLayout rfl rfl registered 0 "x" ⟨"Other","page"⟩).2 (by decide) rfl

/-- A soft request in a layout has no value exactly when the layout is the template asked for, and
its view does not have it. -/
theorem existing_eq_none_iff_layout_missed (found : renderer.view view = .ok owner)
    (taken : a.takeLayout.1 = .ok (some layout))
    (registered : renderer.views.contains layout.view = true) :
    (renderer.run (depth + 1) ⟨view,template,a,.existing⟩).outcome = .answer none ↔
      layout = ⟨view,template⟩ ∧ owner.hasTemplate template = false := by
  obtain ⟨layoutView,held⟩ := view_of_contains registered
  have takenSoft : (a.setSoftRequest ⟨view,template⟩).takeLayout.1 = .ok (some layout) := taken
  change (renderer.renderIfPresent _ view template _).outcome =
    (.answer none : Outcome (Option Rendered)) ↔ _
  rw [renderIfPresent_of_layout takenSoft found held,Run.outcome_bind_eq_answer_iff]
  constructor
  -- The tag is for the template asked for, so a layout that is missed softly is that template.
  · rintro ⟨inner,_,missed⟩
    obtain ⟨missing,tagged⟩ := View.renderAlone_eq_none_iff.mp missed
    have same : (⟨view,template⟩ : TemplateRef) = ⟨layoutView.name,layout.template⟩ :=
      Option.some.inj tagged
    rw [name_of_view held] at same
    obtain rfl : layout = ⟨view,template⟩ := same.symm
    obtain rfl : owner = layoutView := Except.ok.inj (found.symm.trans held)
    exact ⟨rfl,missing⟩
  · rintro ⟨rfl,missing⟩
    obtain rfl : owner = layoutView := Except.ok.inj (found.symm.trans held)
    have tagged : some (⟨view,template⟩ : TemplateRef) = some ⟨owner.name,template⟩ := by
      rw [name_of_view found]
    refine ⟨none,?_,?_⟩
    · exact View.renderAlone_eq_none_iff.mpr ⟨missing,tagged⟩
    · exact View.renderAlone_eq_none_iff.mpr ⟨missing,tagged⟩

/-- In itself the missing template has no value, in the page it has one. -/
theorem existing_eq_none_iff_framing :
    framing.view "Site" = .ok framingView ∧ framingView.hasTemplate "x" = false ∧
    (framing.run 1 ⟨"Site","x",Assigns.empty.withLayout "Site" "x",.existing⟩).outcome =
      .answer none ∧
    (framing.run 1 ⟨"Site","x",Assigns.empty.withLayout "Site" "page",.existing⟩).outcome ≠
      .answer none := by
  have found : framing.view "Site" = .ok framingView := rfl
  have registered : framing.views.contains "Site" = true := rfl
  have missing : framingView.hasTemplate "x" = false := rfl
  have itself : (Assigns.empty.withLayout "Site" "x").takeLayout.1 = .ok (some ⟨"Site","x"⟩) := rfl
  have page : (Assigns.empty.withLayout "Site" "page").takeLayout.1 =
      .ok (some ⟨"Site","page"⟩) := rfl
  refine ⟨found,missing,?_,fun none => ?_⟩
  · exact (existing_eq_none_iff_layout_missed found itself registered).mpr ⟨rfl,missing⟩
  · have other := ((existing_eq_none_iff_layout_missed found page registered).mp none).1
    contradiction

theorem existing_with_layout_without_value :
    ¬ ∀ (renderer : Renderer) (view template : String) (a : Assigns) (layout : TemplateRef)
      (depth : Nat), renderer.views.contains view = true →
        a.takeLayout.1 = .ok (some layout) → renderer.views.contains layout.view = true →
          (renderer.run depth ⟨view,template,a,.existing⟩).outcome ≠ .answer none := by
  intro always
  exact always framing "Site" "x" (Assigns.empty.withLayout "Site" "x") ⟨"Site","x"⟩ 1
    rfl rfl rfl rfl

end Renderer

end ViewTemplates
