import ViewTemplates.Rendering.Assembly
import ViewTemplates.View.Rendering

/-! Rendering with several views: layouts, collections, and finished output. -/
namespace ViewTemplates.Renderer

def viewNames (renderer : Renderer) : List String := renderer.views.keys

def view (renderer : Renderer) (name : String) : Except RenderError View :=
  match renderer.views.find? name with
  | some view => .ok view
  | none => .error (.unknownView name)

/-- The key that items of a collection are bound under. -/
def itemKey (renderer : Renderer) (view : String) (assigns : Assigns) :
    Except RenderError String :=
  match assigns.get? Assigns.asKey with
  | some (.string key) => .ok key
  | none | some .null => (renderer.view view).map View.resourceName
  | some value => .error (.invalidAssigns (.keyNotText Assigns.asKey value))

section

variable (perform : (call : Call) → Run call.Answer)

/-- Renders a template, in its layout if it has one. A layout is rendered also around nothing. -/
def renderIfPresent (renderer : Renderer) (view template : String) (assigns : Assigns) :
    Run (Option Rendered) := do
  let (layout,assigns) := assigns.takeLayout
  let layout ← Run.ofExcept (layout.mapError .invalidLayout)
  let owner ← Run.ofExcept (renderer.view view)
  match layout with
  | none => owner.renderAlone perform template assigns
  | some layout =>
    let layoutView ← Run.ofExcept (renderer.view layout.view)
    match ← owner.renderAlone perform template assigns with
    | some inner =>
      layoutView.renderAlone perform layout.template (assigns.setInnerContent inner)
    | none => layoutView.renderAlone perform layout.template assigns.clearInnerContent

def renderPlain (renderer : Renderer) (view template : String) (assigns : Assigns) :
    Run Rendered := do
  match ← renderer.renderIfPresent perform view template assigns with
  | some rendered => pure rendered
  | none =>
    let owner ← Run.ofExcept (renderer.view view)
    .fail (owner.undefined template)

/-- Renders a template for every item, in order, up to the first error. -/
def renderItems (renderer : Renderer) (view template : String) (assigns : Assigns) (key : String) :
    List Item → Run (List Rendered)
  | [] => pure []
  | item :: rest => do
    let value ← Run.ofExcept (item.mapError .serialization)
    let rendered ← renderer.renderPlain perform view template (assigns.insert key value)
    let others ← renderItems renderer view template assigns key rest
    pure (rendered :: others)

def renderMany (renderer : Renderer) (view template : String) (assigns : Assigns)
    (items : List Item) : Run (List Rendered) := do
  let key ← Run.ofExcept (renderer.itemKey view assigns)
  renderer.renderItems perform view template assigns key items

def renderOutput (renderer : Renderer) (view template : String) (assigns : Assigns) :
    Run Output := do
  let rendered ← renderer.renderPlain perform view template assigns
  match renderer.registry.registry.encoder? template with
  | none => pure (.raw rendered)
  | some encoder =>
    let bytes ← Run.ofExcept ((encoder.encode rendered).mapError .encode)
    pure (.encoded bytes)

/-- Answers a call, given how the calls of clauses and hooks run. -/
def answer (renderer : Renderer) (call : Call) : Run call.Answer :=
  let ⟨view,template,assigns,request⟩ := call
  match request with
  | .plain => renderer.renderPlain perform view template assigns
  | .existing =>
    renderer.renderIfPresent perform view template (assigns.setSoftRequest ⟨view,template⟩)
  | .layout content => renderer.renderPlain perform view template (assigns.setInnerContent content)
  | .many items => renderer.renderMany perform view template assigns items
  | .one none => (pure none : Run (Option Rendered))
  | .one (some item) => List.getLast? <$> renderer.renderMany perform view template assigns [item]
  | .output => renderer.renderOutput perform view template assigns
  | .text => do
    let output ← renderer.renderOutput perform view template assigns
    Run.ofExcept (output.text?.mapError .notText)

end

/-- Runs a call in which calls nest at most `depth` deep. -/
def run (renderer : Renderer) : Nat → (call : Call) → Run call.Answer
  | 0, _ => .exhausted
  | depth + 1, call => renderer.answer (renderer.run depth) call

end ViewTemplates.Renderer
