import ViewTemplates.Jinja.Fault
import ViewTemplates.Output.Encoder

/-! What goes wrong while templates are rendered. -/
namespace ViewTemplates

inductive AssignsFault
  | notObject (value : Json)
  | keyNotText (key : String) (value : Json)
  /-- A clause or hook refuses them. -/
  | refused (reason : String)

def AssignsFault.message : AssignsFault → String
  | .notObject value => "expected a map, got: " ++ value.text
  | .keyNotText key value => "\"" ++ key ++ "\" must be a string, got: " ++ value.text
  | .refused reason => reason

inductive RenderError
  | invalidLayout (value : Json)
  | templateUndefined (view template root pattern : String) (available : List String)
  | unknownView (name : String)
  | invalidAssigns (fault : AssignsFault)
  | failed (fault : Jinja.Fault)
  | serialization (reason : String)
  | encode (error : EncodingError)
  | notText (defect : Utf8.Defect)

namespace RenderError

/-- The message of an error; none where rendering itself failed, or an encoder without a message. -/
def message? : RenderError → Option String
  | .invalidLayout value => some <|
    "invalid value for reserved key \"layout\" in assigns; " ++
      "expected [\"Module.Name\", \"template\"] or false, got: " ++ value.text
  | .templateUndefined view template root pattern available => some <|
    "could not render \"" ++ template ++ "\" for " ++ view ++
      ": define a render clause or a template at \"" ++ root ++ "/" ++ pattern ++
      "\". Compiled templates: [" ++ ", ".intercalate available ++ "]"
  | .unknownView name => some <| "unknown view: " ++ name
  | .invalidAssigns fault => some <| "invalid assigns: " ++ fault.message
  | .failed _ => none
  | .serialization reason => some <| "serialization error: " ++ reason
  | .encode error => error.message?
  | .notText defect => some <| "encoded output is not valid UTF-8: " ++ defect.message

end RenderError

end ViewTemplates
