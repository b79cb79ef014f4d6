/-! Escaping for markup: six characters become entities, and nothing else changes. -/
namespace ViewTemplates.Markup

def escape (c : Char) : List Char :=
  if c = '<' then ['&','l','t',';']
  else if c = '>' then ['&','g','t',';']
  else if c = '&' then ['&','a','m','p',';']
  else if c = '"' then ['&','q','u','o','t',';']
  else if c = '\'' then ['&','#','x','2','7',';']
  else if c = '/' then ['&','#','x','2','f',';']
  else [c]

def escaped (s : List Char) : List Char := s.flatMap escape

def escapeText (s : String) : String := String.ofList (escaped s.toList)

end ViewTemplates.Markup
