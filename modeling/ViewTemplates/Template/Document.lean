import ViewTemplates.Template.Placeholder

/-! Data templates: documents whose strings are filled from the assigns. Keys are never filled. -/
namespace ViewTemplates

/-- A compiled document. A string that is exactly one placeholder takes the value itself; other
strings take text. -/
inductive DataTemplate
  | constant (value : Json)
  | placeholder (path : List Char)
  | text (segments : List Segment)
  | array (items : List DataTemplate)
  | object (members : List (String × DataTemplate))

namespace DataTemplate

/-- The characters of the literals, doubled braces made single. -/
def literalText (segments : List Segment) : List Char :=
  segments.flatMap fun segment => match segment with
    | .literal chars => chars
    | .placeholder _ _ => []

def ofString (s : String) : DataTemplate :=
  match Segment.parseLenient s.toList with
  | [.placeholder path _] => .placeholder path
  | segments =>
    if segments.any Segment.isPlaceholder then .text segments
    else .constant (.string (String.ofList (literalText segments)))

mutual

def ofJson : Json → DataTemplate
  | .string value => ofString value
  | .array items => .array (ofItems items)
  | .object members => .object (ofMembers members)
  | value => .constant value

def ofItems : List Json → List DataTemplate
  | [] => []
  | item :: rest => ofJson item :: ofItems rest

def ofMembers : List (String × Json) → List (String × DataTemplate)
  | [] => []
  | (key,value) :: rest => (key,ofJson value) :: ofMembers rest

end

mutual

/-- The data of a template. A placeholder that leads nowhere becomes `null`. -/
def render (assigns : Assigns) : DataTemplate → Json
  | .constant value => value
  | .placeholder path => ((assigns.resolve? path).map Resolved.toJson).getD .null
  | .text segments => .string (String.ofList (Segment.renderAll false assigns segments))
  | .array items => .array (renderItems assigns items)
  | .object members => .object (renderMembers assigns members)

def renderItems (assigns : Assigns) : List DataTemplate → List Json
  | [] => []
  | item :: rest => render assigns item :: renderItems assigns rest

def renderMembers (assigns : Assigns) : List (String × DataTemplate) → List (String × Json)
  | [] => []
  | (key,value) :: rest => (key,render assigns value) :: renderMembers assigns rest

end

end DataTemplate

end ViewTemplates
