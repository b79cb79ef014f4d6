import ViewTemplates.Template.Error
import ViewTemplates.Text.Quoted

/-! What goes wrong while views are set up and compiled. -/
namespace ViewTemplates

inductive SetupError
  | missingRoot (view : String)
  | alreadySetUp (view : String)
  | invalidViewName (name : String)
  /-- Two files have one template name. -/
  | collision (view name existing conflicting : String)
  | uncompiled (path : String) (cause : SourceError)
  | unknownEngine (extension : String)
  | malformedSettings
  | invalidPattern (pattern view : String)
deriving DecidableEq, Repr

namespace SetupError

def quoted (s : String) : String := String.ofList (Text.quoted s.toList)

def message : SetupError → String
  | .missingRoot view =>
    "no template root configured for " ++ view ++ "; set `root` before compiling"
  | .alreadySetUp view => view ++ " is already set up; views can only be set up once"
  | .invalidViewName name =>
    "invalid view name " ++ quoted name ++ "; expected dot-separated capitalized segments"
  | .collision view name existing conflicting =>
    "template collision in " ++ view ++ " for \"" ++ name ++ "\":\n  - " ++ existing ++
      "\n  - " ++ conflicting
  | .uncompiled path cause => "failed to compile " ++ path ++ ": " ++ cause.message
  | .unknownEngine extension =>
    "no template engine registered for extension \"" ++ extension ++ "\""
  | .malformedSettings => "invalid settings"
  | .invalidPattern pattern view =>
    "invalid settings: invalid pattern " ++ quoted pattern ++ " for " ++ view

end SetupError

end ViewTemplates
