import ViewTemplates.Naming
import ViewTemplates.Path
import ViewTemplates.Text.Blank
import ViewTemplates.Yaml.Decode
import ViewTemplates.Yaml.Text

/-! Where a view finds its templates: a root directory, and below it a path that is given or
derived from the view's name. -/
namespace ViewTemplates

structure ViewRoot where
  root : Option String := none
  /-- The path below the root; blank for the root itself, none to derive it. -/
  path : Option String := none
  /-- The part of view names that is left out of derived paths. -/
  namespaceName : Option String := none
  pattern : String := "*"
deriving DecidableEq, Repr

namespace ViewRoot

/-- The path below the root for a view. Without a namespace the first segment of the name is it. -/
def subPath (config : ViewRoot) (view : String) : String :=
  match config.path with
  | some path => String.ofList (Text.trim path.toList)
  | none =>
    let first := String.ofList (Text.cut '.' view.toList).1
    Naming.directory view (config.namespaceName.getD first) Naming.suffix

def directory? (config : ViewRoot) (view : String) : Option String :=
  match config.root with
  | none => none
  | some root =>
    if root.isEmpty then none
    else
      let sub := config.subPath view
      if sub.isEmpty then some root
      else some (String.ofList (Path.join root.toList sub.toList))

/-- Sets one field, which must not be set twice. -/
def setField (document : Yaml.Document) (read : List String × ViewRoot)
    (entry : String × Yaml.Node) : Option (List String × ViewRoot) := do
  let (seen,config) := read
  let (key,node) := entry
  if seen.contains key then none
  else
    let optionalText : Option (Option String) := do
      match ← document.optional? node with
      | some node => (document.text? node).map some
      | none => some none
    let config ←
      if key = "root" then optionalText.map fun text => { config with root := text }
      else if key = "path" then optionalText.map fun text => { config with path := text }
      else if key = "namespace" then
        optionalText.map fun text => { config with namespaceName := text }
      else if key = "pattern" then
        (document.text? node).map fun text => { config with pattern := text }
      else none
    some (key :: seen,config)

/-- The configuration in YAML; empty text is the default. -/
def ofYaml? (text : String) : Option ViewRoot := do
  match ← Yaml.ofText? text with
  | .empty => some {}
  | .document document =>
    let entries ← document.entries? document.root
    let (_,config) ← entries.foldlM (setField document) ([],{})
    some config

def textOrNull (text : Option String) : Json := (text.map Json.string).getD .null

def yaml (config : ViewRoot) : String :=
  String.ofList (Yaml.chars (.object
    [("root",textOrNull config.root),("path",textOrNull config.path),
      ("namespace",textOrNull config.namespaceName),("pattern",.string config.pattern)]))

end ViewRoot

end ViewTemplates
