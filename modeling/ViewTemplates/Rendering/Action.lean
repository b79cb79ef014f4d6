import ViewTemplates.Output.Basic
import ViewTemplates.Rendering.Error
import ViewTemplates.Template.Assigns

/-! Render clauses and not-found hooks: programs that call the renderer, and go on with its answer
or its error. -/
namespace ViewTemplates

/-- An item of a collection, or the reason why it has no form as data. -/
abbrev Item := Except String Json

inductive Request
  /-- Its value, in its layout if there is one. -/
  | plain
  /-- No value if the template is missing. -/
  | existing
  /-- As a layout around a value. -/
  | layout (content : Rendered)
  /-- Once for each item. -/
  | many (items : List Item)
  /-- For one item, if there is one. -/
  | one (item : Option Item)
  | output
  | text

def Request.Answer : Request → Type
  | .plain => Rendered
  | .existing => Option Rendered
  | .layout _ => Rendered
  | .many _ => List Rendered
  | .one _ => Option Rendered
  | .output => Output
  | .text => String

structure Call where
  view : String
  template : String
  assigns : Assigns
  request : Request := .plain

abbrev Call.Answer (call : Call) : Type := call.request.Answer

inductive Action
  | finish (result : Except RenderError Rendered)
  | call (call : Call) (next : Except RenderError call.Answer → Action)

/-- Renders a template in place of a compiled one. -/
abbrev Clause := Assigns → Action

/-- Called with the name of a template that a view does not have. -/
abbrev Hook := String → Assigns → Action

end ViewTemplates
