import ViewTemplates.Jinja.Template
import ViewTemplates.Rendering.Error
import ViewTemplates.Template.Document

/-! Compiled templates of any engine: from assigns to rendered values. -/
namespace ViewTemplates

inductive Template
  | jinja (template : Jinja.Template)
  /-- Text with placeholders, whose values are escaped or not. -/
  | simple (escape : Bool) (segments : List Segment)
  | data (template : DataTemplate)
  /-- Compiled by an engine of the caller's own. -/
  | custom (run : Assigns → Except RenderError Rendered)

namespace Template

/-- What names stand for in a template: the values, and the inner content under its key. -/
def context (assigns : Assigns) : KeyMap Jinja.Value :=
  let values := assigns.values.map Jinja.Value.ofJson
  match assigns.innerContent with
  | none => values
  | some (.safe text) => values.insert Assigns.innerContentKey (.string true text.toList)
  | some (.data value) => values.insert Assigns.innerContentKey (.ofJson value)

def render (template : Template) (assigns : Assigns) : Except RenderError Rendered :=
  match template with
  | .jinja template =>
    match template.render (context assigns).entries with
    | .ok text => .ok (.safe (String.ofList text))
    | .error fault => .error (.failed fault)
  | .simple escape segments =>
    .ok (.safe (String.ofList (Segment.renderAll escape assigns segments)))
  | .data template => .ok (.data (template.render assigns))
  | .custom run => run assigns

end Template

end ViewTemplates
