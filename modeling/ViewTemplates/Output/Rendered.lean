import ViewTemplates.Json.Text

/-! What a template renders to: text that is escaped already, or data. -/
namespace ViewTemplates

inductive Rendered
  | safe (text : String)
  | data (value : Json)
deriving BEq, Inhabited

namespace Rendered

def safe? : Rendered → Option String
  | .safe text => some text
  | .data _ => none

def data? : Rendered → Option Json
  | .safe _ => none
  | .data value => some value

/-- As data; safe text becomes a string. -/
def toJson : Rendered → Json
  | .safe text => .string text
  | .data value => value

/-- As text, not encoded: strings are themselves and other data is JSON text. -/
def text : Rendered → String
  | .safe text => text
  | .data value => value.bareText

end Rendered

end ViewTemplates
