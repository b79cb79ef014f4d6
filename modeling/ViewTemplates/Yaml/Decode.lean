import ViewTemplates.Json.Basic
import ViewTemplates.Yaml.Parse

/-! From documents to data. Lists and mappings nest at most 128 deep, and aliases are followed at
most a hundred times as often as the document has marks. -/
namespace ViewTemplates.Yaml

/-- The name of a tag that a document gives a meaning of its own, an exclamation mark before it. -/
def ownTag? (tag : Option Utf8.Bytes) : Option (List Char) :=
  match tag with
  | some (b :: name) => if b = 0x21 then (Utf8.decode name).toOption else none
  | _ => none

def commonTag (name : String) : Utf8.Bytes := Utf8.encode ("tag:yaml.org,2002:" ++ name).toList

def Scalar.toJson? (text : List Char) : Scalar → Option Json
  | .null => some .null
  | .bool b => some (.bool b)
  | .int i => if h : WordRange i then some (.number (.int i h)) else none
  | .float x => some (.ofBinary64 x)
  | .text => some (.string (String.ofList text))

def untaggedJson? (plain : Bool) (text : List Char) : Option Json :=
  if plain then (Scalar.ofPlain text).toJson? text else some (.string (String.ofList text))

/-- The value of a scalar. A common tag asks for one kind, and a tag of the document's own has no
meaning as data unless its name is no text. -/
def scalarJson? (tag : Option Utf8.Bytes) (plain : Bool) (text : List Char) : Option Json :=
  if (ownTag? tag).isSome then none
  else match tag with
    | some tag =>
      if tag = commonTag "bool" then (Scalar.bool? text).map .bool
      else if tag = commonTag "int" then
        match Scalar.integer? text with
        | some i => Scalar.toJson? text (.int i)
        | none => none
      else if tag = commonTag "float" then (Scalar.float? text).map .ofBinary64
      else if tag = commonTag "null" then if Scalar.isNull text then some .null else none
      else if tag.head? = some 0x21 then untaggedJson? plain text
      else some (.string (String.ofList text))
    | none => untaggedJson? plain text

namespace Document

def aliasLimit (document : Document) : Nat := 100 * document.root.size

/-- The node an alias stands for; every alias followed uses up one of `left`. -/
def follow (document : Document) (node : Node) (left : Nat) : Option (Node × Nat) :=
  match node with
  | .aliasOf number =>
    match left with
    | 0 => none
    | left + 1 => (document.anchored number).map fun found => (found,left)
  | node => some (node,left)

def key? (document : Document) (node : Node) (left : Nat) : Option (String × Nat) := do
  let (node,left) ← document.follow node left
  match node with
  | .scalar _ _ text => some (String.ofList text,left)
  | _ => none

def each (decode : α → Nat → Option (β × Nat)) : List α → Nat → Option (List β × Nat)
  | [], left => some ([],left)
  | x :: rest, left => do
    let (y,left) ← decode x left
    let (ys,left) ← each decode rest left
    some (y :: ys,left)

/-- The data of a node in which lists and mappings may nest `depth` deep. -/
def json? (document : Document) (depth : Nat) (node : Node) (left : Nat) :
    Option (Json × Nat) := do
  let (node,left) ← document.follow node left
  match node, depth with
  | .scalar tag plain text, _ => (scalarJson? tag plain text).map fun value => (value,left)
  | .sequence tag items, depth + 1 =>
    if (ownTag? tag).isSome then none
    else
      let (items,left) ← each (document.json? depth) items left
      some (.array items,left)
  | .mapping tag entries, depth + 1 =>
    if (ownTag? tag).isSome then none
    else
      let member (entry : Node × Node) (left : Nat) : Option ((String × Json) × Nat) := do
        let (key,left) ← document.key? entry.1 left
        let (value,left) ← document.json? depth entry.2 left
        some ((key,value),left)
      let (members,left) ← each member entries left
      some (.ofMembers members,left)
  | _, _ => none

def target (document : Document) (node : Node) : Option Node :=
  (document.follow node document.aliasLimit).map (·.1)

/-- The keys and values of a mapping; a value that is left out is an empty one. -/
def entries? (document : Document) (node : Node) : Option (List (String × Node)) := do
  match ← document.target node with
  | .mapping _ entries =>
    entries.mapM fun entry => do
      let (key,_) ← document.key? entry.1 document.aliasLimit
      some (key,entry.2)
  | .scalar _ true [] => some []
  | _ => none

def text? (document : Document) (node : Node) : Option String :=
  (document.key? node document.aliasLimit).map (·.1)

/-- A node that may be left out: nothing for the null scalar, otherwise the node. -/
def optional? (document : Document) (node : Node) : Option (Option Node) := do
  match ← document.target node with
  | .scalar tag true text =>
    match tag with
    | some tag =>
      if tag = commonTag "null" then if Scalar.isNull text then some none else none
      else some (some node)
    | none => some (if text.isEmpty || Scalar.isNull text then none else some node)
  | _ => some (some node)

/-- A name chosen from a list: a scalar with its text, or a null scalar tagged with it. -/
def choice? (document : Document) (node : Node) : Option String := do
  match ← document.target node with
  | .scalar tag plain text =>
    match ownTag? tag with
    | some name =>
      if plain && (text.isEmpty || Scalar.isNull text) then some (String.ofList name) else none
    | none => some (String.ofList text)
  | _ => none

end Document

def json? (text : String) : Option Json := do
  match ← ofText? text with
  | .empty => some .null
  | .document document => (document.json? 128 document.root document.aliasLimit).map (·.1)

end ViewTemplates.Yaml
