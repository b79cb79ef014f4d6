import ViewTemplates.Json.Text
import ViewTemplates.Text.Letter

/-! Data as one XML element `data`: members are elements, arrays repeat the element of their key. -/
namespace ViewTemplates.Xml

def isNameStart (c : Char) : Bool := Text.isAsciiUpper c || Text.isAsciiLower c || c == '_'

def isNameChar (c : Char) : Bool := Text.isAsciiAlphanumeric c || c == '_' || c == '-' || c == '.'

def mayStart (c : Char) : Bool :=
  let n := c.toNat
  isNameStart c || c == ':' || (0xC0 ≤ n && n ≤ 0xD6) || (0xD8 ≤ n && n ≤ 0xF6)
    || (0xF8 ≤ n && n ≤ 0x2FF) || (0x370 ≤ n && n ≤ 0x37D) || (0x37F ≤ n && n ≤ 0x1FFF)
    || n == 0x200C || n == 0x200D || (0x2070 ≤ n && n ≤ 0x218F) || (0x2C00 ≤ n && n ≤ 0x2FEF)
    || (0x3001 ≤ n && n ≤ 0xD7FF) || (0xF900 ≤ n && n ≤ 0xFDCF) || (0xFDF0 ≤ n && n ≤ 0xFFFD)
    || (0x10000 ≤ n && n ≤ 0xEFFFF)

def mayFollow (c : Char) : Bool :=
  let n := c.toNat
  mayStart c || isNameChar c || n == 0xB7 || (0x300 ≤ n && n ≤ 0x36F) || n == 0x203F || n == 0x2040

def isName : List Char → Bool
  | [] => false
  | c :: rest => mayStart c && rest.all mayFollow

/-- An element name for a key: what is not allowed becomes an underscore, and a leading digit is
put behind one. -/
def elementName (key : List Char) : List Char :=
  match key with
  | [] => ['_']
  | c :: rest =>
    let first :=
      if isNameStart c then [c] else if Text.isAsciiAlphanumeric c then ['_',c] else ['_']
    first ++ rest.map fun c => if isNameChar c then c else '_'

mutual

/-- The value with all keys made element names; of two keys with one name the later counts. -/
def sanitized : Json → Json
  | .array items => .array (sanitizedItems items)
  | .object members => .ofMembers (sanitizedMembers members)
  | value => value

def sanitizedItems : List Json → List Json
  | [] => []
  | item :: rest => sanitized item :: sanitizedItems rest

def sanitizedMembers : List (String × Json) → List (String × Json)
  | [] => []
  | (key,value) :: rest =>
    (String.ofList (elementName key.toList),sanitized value) :: sanitizedMembers rest

end

def escape (c : Char) : List Char :=
  if c = '<' then ['&','l','t',';']
  else if c = '>' then ['&','g','t',';']
  else if c = '&' then ['&','a','m','p',';']
  else [c]

/-- An element with its content; one without content is an empty-element tag. -/
def element (name content : List Char) : List Char :=
  if content.isEmpty then '<' :: name ++ ['/','>']
  else '<' :: name ++ '>' :: content ++ '<' :: '/' :: name ++ ['>']

def numberText : Number → List Char
  | .int value _ => integerText value
  | .float value _ => FloatLayout.plain.text value

mutual

/-- The elements that a member writes: one, or for an array those of all its items. -/
def elements (name : List Char) : Json → List Char
  | .null => element name []
  | .bool true => element name ['t','r','u','e']
  | .bool false => element name ['f','a','l','s','e']
  | .number value => element name (numberText value)
  | .string value => element name (value.toList.flatMap escape)
  | .array items => itemElements name items
  | .object members => element name (memberElements members)

def itemElements (name : List Char) : List Json → List Char
  | [] => []
  | item :: rest => elements name item ++ itemElements name rest

def memberElements : List (String × Json) → List Char
  | [] => []
  | (key,value) :: rest => elements key.toList value ++ memberElements rest

end

/-- The members of the document: those of an object, none for `null`, and otherwise the value
itself under `value`. -/
def documentMembers : Json → List (String × Json)
  | .object members => members
  | .null => []
  | value => [("value",value)]

mutual

/-- The element names of a value at any depth, in the order of the document. -/
def names : Json → List String
  | .array items => itemNames items
  | .object members => memberNames members
  | _ => []

def itemNames : List Json → List String
  | [] => []
  | item :: rest => names item ++ itemNames rest

def memberNames : List (String × Json) → List String
  | [] => []
  | (key,value) :: rest => key :: names value ++ memberNames rest

end

/-- Why a document is not written: elements cannot have this name. -/
structure InvalidName where
  name : String
deriving DecidableEq, Repr

/-- The document of a value, if all its elements can have their names. -/
def write (value : Json) : Except InvalidName (List Char) :=
  let members := documentMembers (sanitized value)
  match (memberNames members).find? fun name => !isName name.toList with
  | some name => .error ⟨name⟩
  | none => .ok (element ['d','a','t','a'] (memberElements members))

end ViewTemplates.Xml
