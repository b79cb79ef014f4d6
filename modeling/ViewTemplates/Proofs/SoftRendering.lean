import ViewTemplates.Proofs.LayoutRendering

/-! Soft requests. Without a layout a soft request has no value exactly for a template that its view
does not have. What the engines of the library compile does not see the tag of the request, so for
such templates it has the value of a plain one. -/
namespace ViewTemplates

namespace Assigns

/-- The assigns differ at most in their guards and in the tag of a soft request. -/
structure SameData (a b : Assigns) : Prop where
  values : a.values = b.values
  innerContent : a.innerContent = b.innerContent

theorem SameData.resolve? {a b : Assigns} (same : a.SameData b) (path : List Char) :
    a.resolve? path = b.resolve? path := by
  simp only [Assigns.resolve?,get?,same.values,same.innerContent]

end Assigns

theorem Segment.renderAll_congr {a b : Assigns}
    (same : ∀ path, a.resolve? path = b.resolve? path) (escape : Bool) (segments : List Segment) :
    renderAll escape a segments = renderAll escape b segments := by
  refine congrArg (segments.flatMap ·) (funext fun segment => ?_)
  cases segment with
  | literal text => rfl
  | placeholder path raw => simp only [render,same]

namespace DataTemplate

variable {a b : Assigns}

mutual

theorem render_congr (same : ∀ path, a.resolve? path = b.resolve? path) :
    ∀ template : DataTemplate, template.render a = template.render b
  | .constant value => rfl
  | .placeholder path => by simp only [render,same]
  | .text segments => by simp only [render,Segment.renderAll_congr same]
  | .array items => by simp only [render,renderItems_congr same items]
  | .object members => by simp only [render,renderMembers_congr same members]

theorem renderItems_congr (same : ∀ path, a.resolve? path = b.resolve? path) :
    ∀ items : List DataTemplate, renderItems a items = renderItems b items
  | [] => rfl
  | item :: rest => by
    simp only [renderItems,render_congr same item,renderItems_congr same rest]

theorem renderMembers_congr (same : ∀ path, a.resolve? path = b.resolve? path) :
    ∀ members : List (String × DataTemplate), renderMembers a members = renderMembers b members
  | [] => rfl
  | (key,value) :: rest => by
    simp only [renderMembers,render_congr same value,renderMembers_congr same rest]

end

end DataTemplate

namespace Template

def BuiltIn : Template → Prop
  | .custom _ => False
  | _ => True

/-- The engines of the library compile to such templates only. -/
theorem builtIn_of_compile {engine : Engine} (own : ∀ compile?, engine ≠ .custom compile?)
    {name source : String} {compiled : Template}
    (made : engine.compile name source = .ok compiled) : compiled.BuiltIn := by
  unfold Engine.compile at made
  split at made
  case h_4 compile? => exact absurd rfl (own compile?)
  all_goals
    split at made
    · exact Except.ok.inj made ▸ trivial
    · contradiction

theorem BuiltIn.render_congr {compiled : Template} (builtIn : compiled.BuiltIn) {a b : Assigns}
    (same : a.SameData b) : compiled.render a = compiled.render b := by
  cases compiled with
  | jinja template => simp only [render,context,same.values,same.innerContent]
  | simple escape segments => simp only [render,Segment.renderAll_congr same.resolve?]
  | data template => simp only [render,DataTemplate.render_congr same.resolve?]
  | custom run => exact builtIn.elim

end Template

namespace View

variable {view : View} {template : String} {perform : (call : Call) → Run call.Answer}

/-- The view has no clause of the name, but a template that an engine of the library compiled. -/
def Compiles (view : View) (template : String) : Prop :=
  view.clauses.find? template = none ∧
    ∃ compiled, view.templates.find? template = some compiled ∧ compiled.BuiltIn

theorem Compiles.hasTemplate (compiles : view.Compiles template) :
    view.hasTemplate template = true := by
  obtain ⟨_,compiled,found,_⟩ := compiles
  simp [View.hasTemplate,KeyMap.contains,found]

theorem Compiles.outcome_eq (compiles : view.Compiles template) {a b : Assigns}
    (same : a.SameData b) :
    (view.renderAlone perform template a).outcome =
      (view.renderAlone perform template b).outcome := by
  obtain ⟨unclaimed,compiled,found,builtIn⟩ := compiles
  rw [renderAlone_of_template unclaimed found,renderAlone_of_template unclaimed found,
    builtIn.render_congr same]
  rcases compiled.render b with error | value <;> rfl

theorem Compiles.outcome_ne_none (compiles : view.Compiles template) (a : Assigns) :
    (view.renderAlone perform template a).outcome ≠ .answer none := by
  intro missed
  have missing := (renderAlone_eq_none_iff.mp missed).1
  rw [compiles.hasTemplate] at missing
  contradiction

end View

namespace Renderer

variable {renderer : Renderer} {perform : (call : Call) → Run call.Answer}
  {view template : String} {a b : Assigns} {owner layoutView : View} {layout : TemplateRef}
  {depth : Nat}

theorem softRequest_of_existing (found : renderer.view view = .ok owner) :
    ((a.setSoftRequest ⟨view,template⟩).erase Assigns.layoutKey).softRequest =
      some ⟨owner.name,template⟩ := by
  rw [name_of_view found]
  rfl

theorem run_existing_of_unframed (found : renderer.view view = .ok owner)
    (unframed : a.takeLayout.1 = .ok none) :
    (renderer.run (depth + 1) ⟨view,template,a,.existing⟩ : Run (Option Rendered)) =
      owner.renderAlone (renderer.run depth) template
        ((a.setSoftRequest ⟨view,template⟩).erase Assigns.layoutKey) :=
  renderIfPresent_of_none (a := a.setSoftRequest ⟨view,template⟩) unframed found

theorem existing_eq_none_iff_missing (found : renderer.view view = .ok owner)
    (unframed : a.takeLayout.1 = .ok none) :
    (renderer.run (depth + 1) ⟨view,template,a,.existing⟩).outcome = .answer none ↔
      owner.hasTemplate template = false := by
  rw [run_existing_of_unframed found unframed]
  refine View.renderAlone_eq_none_iff.trans ?_
  exact and_iff_left (softRequest_of_existing found)

/-- Where a template is missing, a soft request without a layout calls nothing. -/
theorem steps_existing_of_missing (found : renderer.view view = .ok owner)
    (unframed : a.takeLayout.1 = .ok none) (missing : owner.hasTemplate template = false) :
    ∃ given, (renderer.run (depth + 1) ⟨view,template,a,.existing⟩).steps =
      [.missed ⟨view,template⟩ given] := by
  rw [run_existing_of_unframed found unframed,
    View.renderAlone_of_soft missing (softRequest_of_existing found),name_of_view found]
  exact ⟨_,rfl⟩

/-- The layout of a rendering, if it has one, is a template that an engine of the library
compiled. -/
def FramedByCompiled (renderer : Renderer) (a : Assigns) : Prop :=
  a.takeLayout.1 = .ok none ∨ ∃ layout layoutView, a.takeLayout.1 = .ok (some layout) ∧
    renderer.view layout.view = .ok layoutView ∧ layoutView.Compiles layout.template

/-- A rendering of compiled templates does not see guards or tags. -/
theorem outcome_renderIfPresent_eq (found : renderer.view view = .ok owner)
    (compiles : owner.Compiles template) (framed : renderer.FramedByCompiled a)
    (same : a.SameData b) :
    (renderer.renderIfPresent perform view template a).outcome =
      (renderer.renderIfPresent perform view template b).outcome := by
  have sameLayout : b.takeLayout.1 = a.takeLayout.1 := by
    simp only [Assigns.takeLayout,Assigns.get?,same.values]
  have sameErased : (a.erase Assigns.layoutKey).SameData (b.erase Assigns.layoutKey) :=
    ⟨by simp only [Assigns.erase,same.values],same.innerContent⟩
  rcases framed with unframed | ⟨layout,layoutView,taken,held,layoutCompiles⟩
  · rw [renderIfPresent_of_none unframed found,
      renderIfPresent_of_none (sameLayout.trans unframed) found]
    exact compiles.outcome_eq sameErased
  · rw [renderIfPresent_of_layout taken found held,
      renderIfPresent_of_layout (sameLayout.trans taken) found held]
    refine Run.congruence_outcome.bind (compiles.outcome_eq sameErased) fun inner => ?_
    exact layoutCompiles.outcome_eq ⟨sameErased.values,rfl⟩

/-- A rendering of compiled templates has a value, if it has a result. -/
theorem outcome_renderIfPresent_ne_none (found : renderer.view view = .ok owner)
    (compiles : owner.Compiles template) (framed : renderer.FramedByCompiled a) :
    (renderer.renderIfPresent perform view template a).outcome ≠ .answer none := by
  rcases framed with unframed | ⟨layout,layoutView,taken,held,layoutCompiles⟩
  · rw [renderIfPresent_of_none unframed found]
    exact compiles.outcome_ne_none _
  · rw [renderIfPresent_of_layout taken found held]
    intro missed
    obtain ⟨inner,_,layoutMissed⟩ := Run.outcome_bind_eq_answer_iff.mp missed
    exact layoutCompiles.outcome_ne_none _ layoutMissed

theorem outcome_existing_eq_plain (found : renderer.view view = .ok owner)
    (compiles : owner.Compiles template) (framed : renderer.FramedByCompiled a) :
    (renderer.run (depth + 1) ⟨view,template,a,.existing⟩ : Run (Option Rendered)).outcome =
      (some <$> (renderer.run (depth + 1) ⟨view,template,a,.plain⟩ : Run Rendered)).outcome := by
  change (renderer.renderIfPresent _ view template (a.setSoftRequest ⟨view,template⟩)).outcome =
    (some <$> renderer.renderPlain _ view template a).outcome
  rw [map_some_renderPlain_of_ne_none (outcome_renderIfPresent_ne_none found compiles framed)]
  exact outcome_renderIfPresent_eq found compiles framed ⟨rfl,rfl⟩

/-- Around a missing template the compiled layout is rendered as it is alone, with no inner
content. -/
theorem outcome_existing_eq_layout (found : renderer.view view = .ok owner)
    (missing : owner.hasTemplate template = false) (taken : a.takeLayout.1 = .ok (some layout))
    (held : renderer.view layout.view = .ok layoutView)
    (compiles : layoutView.Compiles layout.template) :
    (renderer.run (depth + 1) ⟨view,template,a,.existing⟩ : Run (Option Rendered)).outcome =
      (some <$> (renderer.run (depth + 1)
        ⟨layout.view,layout.template,(a.erase Assigns.layoutKey).clearInnerContent,.plain⟩ :
          Run Rendered)).outcome := by
  have bare : ((a.erase Assigns.layoutKey).clearInnerContent).get? Assigns.layoutKey = none :=
    (Assigns.get?_erase a _ _).trans (if_pos rfl)
  have unframed := Assigns.takeLayout_of_get?_eq_none bare
  have takenSoft : (a.setSoftRequest ⟨view,template⟩).takeLayout.1 = .ok (some layout) := taken
  change (renderer.renderIfPresent _ view template (a.setSoftRequest ⟨view,template⟩)).outcome =
    (some <$> renderer.renderPlain _ layout.view layout.template _).outcome
  rw [map_some_renderPlain_of_ne_none
      (outcome_renderIfPresent_ne_none held compiles (.inl unframed)),
    renderIfPresent_of_none unframed held,Assigns.erase_of_get?_eq_none bare,
    renderIfPresent_of_layout takenSoft found held,
    View.renderAlone_of_soft missing (softRequest_of_existing found),Run.bind_of_answer rfl]
  exact compiles.outcome_eq ⟨rfl,rfl⟩

/-- Without a layout a soft request has no value exactly for a template that the view does not have,
and then nothing is called. For compiled templates it has the value or the error of the plain
request, also in a compiled layout. Around a missing template a compiled layout is rendered with no
inner content. -/
theorem existing_agrees_with_plain (found : renderer.view view = .ok owner) (depth : Nat)
    (template : String) (a : Assigns) :
    (a.takeLayout.1 = .ok none →
      ((renderer.run (depth + 1) ⟨view,template,a,.existing⟩).outcome = .answer none ↔
        owner.hasTemplate template = false) ∧
      (owner.hasTemplate template = false →
        ∃ given, (renderer.run (depth + 1) ⟨view,template,a,.existing⟩).steps =
          [.missed ⟨view,template⟩ given])) ∧
    (owner.Compiles template → renderer.FramedByCompiled a →
      (renderer.run (depth + 1) ⟨view,template,a,.existing⟩ : Run (Option Rendered)).outcome =
        (some <$> (renderer.run (depth + 1) ⟨view,template,a,.plain⟩ : Run Rendered)).outcome) ∧
    (owner.hasTemplate template = false → ∀ layout layoutView,
      a.takeLayout.1 = .ok (some layout) → renderer.view layout.view = .ok layoutView →
        layoutView.Compiles layout.template →
          (renderer.run (depth + 1) ⟨view,template,a,.existing⟩ : Run (Option Rendered)).outcome =
            (some <$> (renderer.run (depth + 1)
              ⟨layout.view,layout.template,(a.erase Assigns.layoutKey).clearInnerContent,.plain⟩ :
                Run Rendered)).outcome) := by
  refine ⟨fun unframed => ⟨?_,?_⟩,?_,fun missing layout layoutView taken held compiles => ?_⟩
  · exact existing_eq_none_iff_missing found unframed
  · exact steps_existing_of_missing found unframed
  · exact outcome_existing_eq_plain found
  · exact outcome_existing_eq_layout found missing taken held compiles

/-- A view with a compiled template `page`, which shows its inner content. -/
def pagesView : View :=
  { View.bare "Pages" (by decide) .empty none with
    templates := KeyMap.empty.insert "page"
      (.simple true [.placeholder "inner_content".toList "inner_content".toList]) }

def pages : Renderer := holding ⟨0,.default⟩ [pagesView]

/-- Assigns with the page as their layout, and with the content of another layout. -/
def paging : Assigns := (Assigns.empty.withLayout "Pages" "page").setInnerContent (.safe "old")

/-- The page is found with and without the tag, in itself, and around a template that is missing. -/
theorem existing_agrees_with_plain_pages :
    pages.view "Pages" = .ok pagesView ∧
    (pages.run 1 ⟨"Pages","x",.empty,.existing⟩).outcome = .answer none ∧
    (pages.run 1 ⟨"Pages","page",paging,.existing⟩ : Run (Option Rendered)).outcome =
      (some <$> (pages.run 1 ⟨"Pages","page",paging,.plain⟩ : Run Rendered)).outcome ∧
    (pages.run 1 ⟨"Pages","x",paging,.existing⟩ : Run (Option Rendered)).outcome =
      (some <$> (pages.run 1
        ⟨"Pages","page",(paging.erase Assigns.layoutKey).clearInnerContent,.plain⟩ :
          Run Rendered)).outcome := by
  have found : pages.view "Pages" = .ok pagesView := rfl
  have compiles : pagesView.Compiles "page" := ⟨rfl,_,rfl,trivial⟩
  have taken : paging.takeLayout.1 = .ok (some ⟨"Pages","page"⟩) := rfl
  have framed : pages.FramedByCompiled paging := .inr ⟨_,_,taken,found,compiles⟩
  refine ⟨found,?_,?_,?_⟩
  · exact ((existing_agrees_with_plain found 0 "x" .empty).1 rfl).1.mpr rfl
  · exact (existing_agrees_with_plain found 0 "page" paging).2.1 compiles framed
  · exact (existing_agrees_with_plain found 0 "x" paging).2.2 rfl _ _ taken found compiles

end Renderer

end ViewTemplates
