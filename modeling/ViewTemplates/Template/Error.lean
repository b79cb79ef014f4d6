import ViewTemplates.Template.Placeholder

/-! What goes wrong with the source of a template. -/
namespace ViewTemplates

inductive SourceError
  | unreadable (path : String)
  /-- The source is no template; the fault is known for text with placeholders. -/
  | malformed (name : String) (fault : Option Segment.Fault)
deriving DecidableEq, Repr

def SourceError.message : SourceError → String
  | .unreadable path => "failed to read \"" ++ path ++ "\": stream did not contain valid UTF-8"
  | .malformed name none => "syntax error in \"" ++ name ++ "\""
  | .malformed name (some fault) => "syntax error in \"" ++ name ++ "\": " ++ fault.message

end ViewTemplates
