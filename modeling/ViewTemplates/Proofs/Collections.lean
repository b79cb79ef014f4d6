import Mathlib.Data.List.Forall2
import ViewTemplates.Proofs.LayoutRendering

/-! Collections. Rendering a collection is rendering its items one after the other, each bound under
the key of items in the assigns of the call, up to the first that fails. Under every key but the one
of layouts, the template is given the item. -/
namespace ViewTemplates

namespace Run

variable {f : α → Run β} {before after items : List α} {item : α} {results : List β}
  {error : RenderError}

theorem outcome_mapM_eq_answer_iff :
    (items.mapM f).outcome = .answer results ↔
      List.Forall₂ (fun item result => (f item).outcome = .answer result) items results := by
  induction items generalizing results with
  | nil => cases results <;> simp [pure]
  | cons item rest ih =>
    rw [List.mapM_cons,outcome_bind_eq_answer_iff]
    constructor
    · rintro ⟨first,answered,later⟩
      obtain ⟨others,done,same⟩ := outcome_bind_eq_answer_iff.mp later
      obtain rfl : first :: others = results := by simpa [pure] using same
      exact .cons answered (ih.mp done)
    · intro each
      cases each with
      | cons answered others =>
        exact ⟨_,answered,outcome_bind_eq_answer_iff.mpr ⟨_,ih.mpr others,rfl⟩⟩

theorem mapM_of_unanswered (unanswered : ∀ result, (f item).outcome ≠ .answer result) :
    (before ++ item :: after).mapM f = before.mapM f >>= fun _ => List.singleton <$> f item := by
  rw [List.mapM_append]
  refine congrArg (before.mapM f >>= ·) (funext fun results => ?_)
  rw [List.mapM_cons,bind_assoc,← bind_pure_comp]
  exact bind_eq_of_unanswered unanswered _ _

/-- Runs one after the other end with the error of the first that fails. -/
theorem outcome_mapM_eq_error_iff :
    (items.mapM f).outcome = .error error ↔
      ∃ before item after results, items = before ++ item :: after ∧
        (before.mapM f).outcome = .answer results ∧ (f item).outcome = .error error := by
  constructor
  · intro failed
    induction items with
    | nil => simp [pure] at failed
    | cons item rest ih =>
      -- The error is that of the head, or else the head is one more item before the one that fails.
      rw [List.mapM_cons] at failed
      rcases outcome_bind_eq_error_iff.mp failed with here | ⟨first,answered,later⟩
      · exact ⟨[],item,rest,[],rfl,rfl,here⟩
      · rcases outcome_bind_eq_error_iff.mp later with inRest | ⟨others,_,impossible⟩
        · obtain ⟨before,last,after,results,rfl,done,ended⟩ := ih inRest
          refine ⟨item :: before,last,after,first :: results,rfl,?_,ended⟩
          exact outcome_mapM_eq_answer_iff.mpr
            (.cons answered (outcome_mapM_eq_answer_iff.mp done))
        · simp [pure] at impossible
  · rintro ⟨before,item,after,results,rfl,done,ended⟩
    rw [mapM_of_unanswered (by simp [ended])]
    exact outcome_bind_eq_error_iff.mpr (.inr ⟨results,done,outcome_map_eq_error_iff.mpr ended⟩)

end Run

/-- The step calls the clause or the compiled template of that name. -/
inductive Step.Serves (ref : TemplateRef) (given : Assigns) : Step → Prop
  | clause (inner : List Step) : Serves ref given (.clause ref given inner)
  | template : Serves ref given (.template ref given)

/-- For a template that the view has, one step is taken, and nothing else has a value. -/
theorem View.exists_step_of_hasTemplate {view : View} {template : String}
    (has : view.hasTemplate template = true) (perform : (call : Call) → Run call.Answer)
    (a : Assigns) :
    ∃ (run : Run Rendered) (step : Step), view.renderAlone perform template a = some <$> run ∧
      run.steps = [step] ∧ step.Serves ⟨view.name,template⟩ a := by
  cases view.decision template a with
  | clause clause found => exact ⟨_,_,renderAlone_of_clause found,rfl,.clause _⟩
  | template compiled unclaimed found =>
    exact ⟨_,_,renderAlone_of_template unclaimed found,rfl,.template⟩
  | soft missing _ | hook _ missing _ _ _ | undefined missing _ _ => simp [has] at missing

namespace Renderer

variable {renderer : Renderer} {perform : (call : Call) → Run call.Answer}
  {view template key : String} {a : Assigns} {owner : View} {depth : Nat}

def runMany (renderer : Renderer) (depth : Nat) (view template : String) (a : Assigns)
    (items : List Item) : Run (List Rendered) :=
  renderer.run depth ⟨view,template,a,.many items⟩

/-- The call for an item alone: it is bound under the key, if it has a form as data. -/
def runItem (renderer : Renderer) (depth : Nat) (view template : String) (a : Assigns)
    (key : String) : Item → Run Rendered
  | .ok value => renderer.run depth ⟨view,template,a.insert key value,.plain⟩
  | .error reason => .fail (.serialization reason)

theorem renderItems_eq_mapM (items : List Item) :
    renderer.renderItems (renderer.run depth) view template a key items =
      items.mapM (renderer.runItem (depth + 1) view template a key) := by
  induction items with
  | nil => rfl
  | cons item rest ih =>
    rw [List.mapM_cons,← ih]
    rcases item with reason | value
    · simp [renderItems,runItem]
    · simp only [renderItems,Run.ofExcept_mapError_ok,pure_bind]
      rfl

/-- A collection is rendered item by item. -/
theorem runMany_eq_mapM (chosen : renderer.itemKey view a = .ok key) (items : List Item) :
    renderer.runMany (depth + 1) view template a items =
      items.mapM (renderer.runItem (depth + 1) view template a key) := by
  rw [← renderItems_eq_mapM]
  change renderer.renderMany _ view template a items = _
  rw [renderMany,chosen,Run.ofExcept_ok,pure_bind]

theorem outcome_runMany_eq_answer_iff (chosen : renderer.itemKey view a = .ok key)
    (items : List Item) (results : List Rendered) :
    (renderer.runMany (depth + 1) view template a items).outcome = .answer results ↔
      List.Forall₂ (fun item result =>
        (renderer.runItem (depth + 1) view template a key item).outcome = .answer result)
        items results := by
  rw [runMany_eq_mapM chosen]
  exact Run.outcome_mapM_eq_answer_iff

theorem outcome_runMany_eq_error_iff (chosen : renderer.itemKey view a = .ok key)
    (items : List Item) (error : RenderError) :
    (renderer.runMany (depth + 1) view template a items).outcome = .error error ↔
      ∃ before item after results, items = before ++ item :: after ∧
        (renderer.runMany (depth + 1) view template a before).outcome = .answer results ∧
        (renderer.runItem (depth + 1) view template a key item).outcome = .error error := by
  simp only [runMany_eq_mapM chosen]
  exact Run.outcome_mapM_eq_error_iff

theorem runMany_of_unanswered (chosen : renderer.itemKey view a = .ok key) (before : List Item)
    (item : Item) (after : List Item)
    (unanswered : ∀ result,
      (renderer.runItem (depth + 1) view template a key item).outcome ≠ .answer result) :
    renderer.runMany (depth + 1) view template a (before ++ item :: after) =
      renderer.runMany (depth + 1) view template a before >>= fun _ =>
        List.singleton <$> renderer.runItem (depth + 1) view template a key item := by
  simp only [runMany_eq_mapM chosen]
  exact Run.mapM_of_unanswered unanswered

theorem runMany_append (chosen : renderer.itemKey view a = .ok key) (items others : List Item) :
    renderer.runMany (depth + 1) view template a (items ++ others) =
      renderer.runMany (depth + 1) view template a items >>= fun first =>
        (first ++ ·) <$> renderer.runMany (depth + 1) view template a others := by
  simp only [runMany_eq_mapM chosen,List.mapM_append,← bind_pure_comp]

theorem runMany_singleton (chosen : renderer.itemKey view a = .ok key) (item : Item) :
    renderer.runMany (depth + 1) view template a [item] =
      List.singleton <$> renderer.runItem (depth + 1) view template a key item := by
  rw [runMany_eq_mapM chosen,List.mapM_cons,List.mapM_nil,← bind_pure_comp]
  simp [List.singleton]

theorem run_one_eq_map_some (chosen : renderer.itemKey view a = .ok key) (item : Item) :
    (renderer.run (depth + 1) ⟨view,template,a,.one (some item)⟩ : Run (Option Rendered)) =
      some <$> renderer.runItem (depth + 1) view template a key item := by
  change List.getLast? <$> renderer.runMany (depth + 1) view template a [item] = _
  rw [runMany_singleton chosen,← comp_map]
  rfl

/-- A collection is rendered when each of its items is, and then it is the values of the items in
their order. Else it ends as the first item does that is not rendered, and nothing is called for an
item after that. So the collection of two lists is that of the first and then that of the second,
and the one item of a collection is rendered as it is alone. -/
theorem runMany_ordered (chosen : renderer.itemKey view a = .ok key) (depth : Nat)
    (template : String) :
    let many := renderer.runMany (depth + 1) view template a
    let one := renderer.runItem (depth + 1) view template a key
    (∀ items results, (many items).outcome = .answer results ↔
      List.Forall₂ (fun item result => (one item).outcome = .answer result) items results) ∧
    (∀ items error, (many items).outcome = .error error ↔
      ∃ before item after results, items = before ++ item :: after ∧
        (many before).outcome = .answer results ∧ (one item).outcome = .error error) ∧
    (∀ before item after, (∀ result, (one item).outcome ≠ .answer result) →
      many (before ++ item :: after) = many before >>= fun _ => List.singleton <$> one item) ∧
    (∀ items others,
      many (items ++ others) = many items >>= fun first => (first ++ ·) <$> many others) ∧
    ∀ item, many [item] = List.singleton <$> one item ∧
      (renderer.run (depth + 1) ⟨view,template,a,.one (some item)⟩ : Run (Option Rendered)) =
        some <$> one item :=
  ⟨outcome_runMany_eq_answer_iff chosen,outcome_runMany_eq_error_iff chosen,
    runMany_of_unanswered chosen,runMany_append chosen,
    fun item => ⟨runMany_singleton chosen item,run_one_eq_map_some chosen item⟩⟩

def listingView : View :=
  .bare "LayoutView" (by decide)
    (KeyMap.empty.insert "row" fun given => .finish (.ok (.data given.toJson))) none

def listing : Renderer := holding ⟨0,.default⟩ [listingView]

def naming (key : String) : Assigns := Assigns.empty.insert Assigns.asKey (.string key)

/-- The second of three items has no form as data, so nothing is called for the third. -/
theorem runMany_ordered_listing :
    listing.itemKey "LayoutView" (naming "row") = .ok "row" ∧
    (listing.runMany 1 "LayoutView" "row" (naming "row")
      [.ok .null,.error "broken",.ok .null]).outcome = .error (.serialization "broken") ∧
    listing.runMany 1 "LayoutView" "row" (naming "row") [.ok .null,.error "broken",.ok .null] =
      listing.runMany 1 "LayoutView" "row" (naming "row") [.ok .null] >>= fun _ =>
        List.singleton <$> listing.runItem 1 "LayoutView" "row" (naming "row") "row"
          (.error "broken") := by
  have chosen : listing.itemKey "LayoutView" (naming "row") = .ok "row" := rfl
  obtain ⟨_,failed,unanswered,_⟩ := runMany_ordered chosen 0 "row"
  refine ⟨chosen,?_,unanswered [.ok .null] (.error "broken") [.ok .null] fun result answered => ?_⟩
  · exact (failed _ _).mpr ⟨[.ok .null],.error "broken",[.ok .null],_,rfl,rfl,rfl⟩
  · contradiction

theorem itemKey_of_named (found : renderer.view view = .ok owner)
    (named : a.get? Assigns.asKey = some (.string key) ∨
      (a.get? Assigns.asKey = none ∨ a.get? Assigns.asKey = some .null) ∧
        key = owner.resourceName) :
    renderer.itemKey view a = .ok key := by
  rcases named with chosen | ⟨unset | null,rfl⟩
  · simp [itemKey,chosen]
  · simp [itemKey,unset,found,Except.map]
  · simp [itemKey,null,found,Except.map]

theorem exists_step_runItem (found : renderer.view view = .ok owner)
    (has : owner.hasTemplate template = true) (bare : a.get? Assigns.layoutKey = none)
    (other : key ≠ Assigns.layoutKey) (depth : Nat) (value : Json) :
    ∃ step, (renderer.runItem (depth + 1) view template a key (.ok value)).steps = [step] ∧
      step.Serves ⟨view,template⟩ (a.insert key value) := by
  have bareItem : (a.insert key value).get? Assigns.layoutKey = none := by
    simp [bare,Ne.symm other]
  obtain ⟨run,step,dispatched,taken,serves⟩ := owner.exists_step_of_hasTemplate has
    (renderer.run depth) (a.insert key value)
  have rendered : renderer.renderIfPresent (renderer.run depth) view template
      (a.insert key value) = some <$> run := by
    rw [renderIfPresent_of_none (Assigns.takeLayout_of_get?_eq_none bareItem) found,
      Assigns.erase_of_get?_eq_none bareItem]
    exact dispatched
  refine ⟨step,?_,name_of_view found ▸ serves⟩
  change (renderer.renderPlain (renderer.run depth) view template (a.insert key value)).steps = _
  rw [renderPlain_of_eq_map_some rendered]
  exact taken

/-- No clause and no compiled template is given a layout. -/
theorem layout_of_serves {call : Call} {ref : TemplateRef} {given : Assigns} {step : Step}
    (member : step ∈ (renderer.run depth call).steps) (serves : step.Serves ref given) :
    given.get? Assigns.layoutKey = none := by
  cases depth with
  | zero => contradiction
  | succ depth =>
    have lasting := Run.lasting_steps fun step =>
      ∀ {ref given}, step.Serves ref given → given.get? Assigns.layoutKey = none
    refine lasting.answer (fun _ dispatch taken inDispatch => ?_) step member serves
    intro ref given serves
    have takes := View.takes_of_mem_renderAlone inDispatch
    cases serves <;> cases takes <;> exact dispatch.layout

theorem runMany_reached (chosen : renderer.itemKey view a = .ok key) {before : List Item}
    {results : List Rendered}
    (reached : (renderer.runMany (depth + 1) view template a before).outcome = .answer results)
    (item : Item) (after : List Item) :
    ∃ later, (renderer.runMany (depth + 1) view template a (before ++ item :: after)).steps =
      (renderer.runMany (depth + 1) view template a before).steps ++
        (renderer.runItem (depth + 1) view template a key item).steps ++ later := by
  rw [runMany_append chosen,Run.bind_of_answer reached,Run.steps_map,
    runMany_eq_mapM chosen (item :: after),List.mapM_cons]
  obtain ⟨later,same⟩ := Run.exists_steps_bind
    (renderer.runItem (depth + 1) view template a key item) _
  exact ⟨later,by rw [same,List.append_assoc]⟩

/-- Exactly under another key than that of layouts, every item that is reached is given to the
clause or the compiled template, under the key of items, in assigns that are else those of the
call. -/
theorem reached_item_served_iff (found : renderer.view view = .ok owner)
    (has : owner.hasTemplate template = true) (bare : a.get? Assigns.layoutKey = none)
    (named : a.get? Assigns.asKey = some (.string key) ∨
      (a.get? Assigns.asKey = none ∨ a.get? Assigns.asKey = some .null) ∧
        key = owner.resourceName)
    {before after : List Item} {value : Json} {results : List Rendered}
    (reached : (renderer.runMany (depth + 1) view template a before).outcome = .answer results) :
    (∃ step later given,
      (renderer.runMany (depth + 1) view template a (before ++ .ok value :: after)).steps =
        (renderer.runMany (depth + 1) view template a before).steps ++ step :: later ∧
      step.Serves ⟨view,template⟩ given ∧ given.get? key = some value ∧
      (∀ other, other ≠ key → given.get? other = a.get? other) ∧
      given.innerContent = a.innerContent ∧ given.guards = a.guards) ↔
    key ≠ Assigns.layoutKey := by
  constructor
  -- What is bound under the key of layouts is taken out as the layout before anything is called.
  · rintro ⟨step,later,given,taken,serves,bound,_⟩ rfl
    have member : step ∈ (renderer.runMany (depth + 1) view template a
        (before ++ .ok value :: after)).steps := by
      rw [taken]
      exact List.mem_append_right _ List.mem_cons_self
    have none := layout_of_serves member serves
    rw [none] at bound
    contradiction
  · intro other
    obtain ⟨step,taken,serves⟩ := exists_step_runItem found has bare other depth value
    obtain ⟨later,steps⟩ := runMany_reached (itemKey_of_named found named) reached (.ok value) after
    refine ⟨step,later,a.insert key value,?_,serves,by simp,fun name differs => ?_,rfl,rfl⟩
    · rw [steps,taken,List.append_assoc]
      rfl
    · simp [differs]

/-- Under the key that is named the clause is given the second item, under the key that the name of
the view gives it is not given the first. -/
theorem reached_item_served_listing :
    listing.view "LayoutView" = .ok listingView ∧ listingView.hasTemplate "row" = true ∧
    listingView.resourceName = Assigns.layoutKey ∧
    (∃ results, (listing.runMany 1 "LayoutView" "row" (naming "row") [.ok .null]).outcome =
      .answer results) ∧
    (∃ step later given,
      (listing.runMany 1 "LayoutView" "row" (naming "row") [.ok .null,.ok (.bool true)]).steps =
        (listing.runMany 1 "LayoutView" "row" (naming "row") [.ok .null]).steps ++ step :: later ∧
      step.Serves ⟨"LayoutView","row"⟩ given ∧ given.get? "row" = some (.bool true) ∧
      (∀ other, other ≠ "row" → given.get? other = (naming "row").get? other) ∧
      given.innerContent = none ∧ given.guards = []) ∧
    ¬ ∃ step later given,
      (listing.runMany 1 "LayoutView" "row" .empty [.ok .null]).steps =
        (listing.runMany 1 "LayoutView" "row" .empty []).steps ++ step :: later ∧
      step.Serves ⟨"LayoutView","row"⟩ given ∧
      given.get? Assigns.layoutKey = some .null ∧
      (∀ other, other ≠ Assigns.layoutKey → given.get? other = Assigns.empty.get? other) ∧
      given.innerContent = none ∧ given.guards = [] := by
  have found : listing.view "LayoutView" = .ok listingView := rfl
  have has : listingView.hasTemplate "row" = true := rfl
  have derived : listingView.resourceName = Assigns.layoutKey := by decide
  have reached : (listing.runMany 1 "LayoutView" "row" (naming "row") [.ok .null]).outcome =
    .answer _ := rfl
  have nothing : (listing.runMany 1 "LayoutView" "row" .empty []).outcome = .answer [] := by
    rw [runMany_eq_mapM (itemKey_of_named found (.inr ⟨.inl rfl,derived.symm⟩))]
    rfl
  refine ⟨found,has,derived,⟨_,reached⟩,?_,?_⟩
  · exact (reached_item_served_iff found has rfl (.inl rfl) reached).mpr (by decide)
  · intro served
    exact (reached_item_served_iff found has rfl (.inr ⟨.inl rfl,derived.symm⟩) nothing).mp
      served rfl

/-- What a view named for layouts renders a collection of is not always what its template is
given. -/
theorem item_of_layout_view_not_served :
    ¬ ∀ (renderer : Renderer) (owner : View) (view template key : String) (a : Assigns)
      (value : Json) (depth : Nat), renderer.view view = .ok owner →
        owner.hasTemplate template = true → a.get? Assigns.layoutKey = none →
        a.get? Assigns.asKey = none → key = owner.resourceName →
          ∃ step later given,
            (renderer.runMany (depth + 1) view template a [.ok value]).steps = step :: later ∧
            step.Serves ⟨view,template⟩ given ∧ given.get? key = some value := by
  intro always
  obtain ⟨step,later,given,taken,serves,bound⟩ :=
    always listing listingView "LayoutView" "row" Assigns.layoutKey .empty .null 0 rfl rfl rfl rfl
      (by decide)
  have member : step ∈ (listing.runMany 1 "LayoutView" "row" .empty [.ok .null]).steps := by
    rw [taken]
    exact List.mem_cons_self
  rw [layout_of_serves member serves] at bound
  contradiction

end Renderer

end ViewTemplates
