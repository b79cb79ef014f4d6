import ViewTemplates.Json.Basic
import ViewTemplates.Naming

/-! A template of a view, as named by layouts, guards and soft requests. -/
namespace ViewTemplates

structure TemplateRef where
  view : String
  template : String
deriving DecidableEq, Repr

namespace TemplateRef

def toJson (ref : TemplateRef) : Json := .array [.string ref.view,.string ref.template]

/-- The layout that a value names: a view and a template. Nothing and `false` name none. -/
def ofLayout? : Json → Except Json (Option TemplateRef)
  | .null => .ok none
  | .bool false => .ok none
  | .array [.string view,.string template] =>
    if Naming.isViewName view then .ok (some ⟨view,template⟩)
    else .error (.array [.string view,.string template])
  | value => .error value

end TemplateRef

end ViewTemplates
