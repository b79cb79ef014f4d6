import ViewTemplates.Registry.Basic
import ViewTemplates.Rendering.Action
import ViewTemplates.View.Error
import ViewTemplates.View.Files
import ViewTemplates.View.Root

/-! Views: the templates below a directory, compiled and bound under their names, with the clauses
and the hook that go before and after them. -/
namespace ViewTemplates

structure ViewDeclaration where
  name : String
  config : Option ViewRoot := none
  clauses : KeyMap Clause := .empty
  notFound : Option Hook := none
  resourceName : Option String := none

namespace ViewDeclaration

/-- Says where the templates are; this is said once. -/
def setUp (declaration : ViewDeclaration) (config : ViewRoot) :
    Except SetupError ViewDeclaration :=
  match declaration.config with
  | some _ => .error (.alreadySetUp declaration.name)
  | none => .ok { declaration with config := some config }

def withClause (declaration : ViewDeclaration) (template : String) (clause : Clause) :
    ViewDeclaration :=
  { declaration with clauses := declaration.clauses.insert template clause }

end ViewDeclaration

structure View where
  name : String
  nameValid : Naming.isViewName name = true
  root : String
  pattern : String
  extensions : List String
  templates : KeyMap Template
  clauses : KeyMap Clause
  notFound : Option Hook
  resourceName : String
  digest : TemplateFiles.Digest

namespace View

/-- Compiles one more file; its template name must be new. -/
def addFile (disk : Disk) (registry : Registry) (view root : String)
    (compiled : KeyMap (String × Template)) (path : String) :
    Except SetupError (KeyMap (String × Template)) :=
  let name := TemplateFiles.name path root
  match compiled.find? name with
  | some (existing,_) => .error (.collision view name existing path)
  | none =>
    let extension := (TemplateFiles.engineExtension? path).getD ""
    match registry.engine? extension with
    | none => .error (.unknownEngine extension)
    | some engine =>
      match disk.read? path with
      | none => .error (.uncompiled path (.unreadable path))
      | some bytes =>
        match engine.compileFile path name bytes with
        | .error cause => .error (.uncompiled path cause)
        | .ok template => .ok (compiled.insert name (path,template))

def compile (disk : Disk) (registry : Registry) (declaration : ViewDeclaration) :
    Except SetupError View := do
  let name := declaration.name
  if nameValid : Naming.isViewName name = true then
    let some config := declaration.config | throw (.missingRoot name)
    let some root := config.directory? name | throw (.missingRoot name)
    let extensions := registry.engineExtensions
    if !extensions.isEmpty &&
        (Glob.parse? (TemplateFiles.glob config.pattern extensions)).isNone then
      throw (.invalidPattern config.pattern name)
    let files := TemplateFiles.find disk root config.pattern extensions
    let compiled ← files.foldlM (addFile disk registry name root) .empty
    pure
      { name := name
        nameValid := nameValid
        root := root
        pattern := config.pattern
        extensions := extensions
        templates := compiled.map (·.2)
        clauses := declaration.clauses
        notFound := declaration.notFound
        resourceName := declaration.resourceName.getD (Naming.resource name Naming.suffix)
        digest := .ofPaths files }
  else throw (.invalidViewName name)

def templateNames (view : View) : List String := view.templates.keys

def hasTemplate (view : View) (template : String) : Bool :=
  view.clauses.contains template || view.templates.contains template

/-- Whether the files that match are no longer those that were compiled. What is in them is not
looked at. -/
def needsRecompile (view : View) (disk : Disk) : Bool :=
  TemplateFiles.digest disk view.root view.pattern view.extensions != view.digest

def label (view : View) : String :=
  let field (name : String) (value : List Char) : List Char := name.toList ++ ':' :: ' ' :: value
  let fields :=
    [field "name" (Text.quoted view.name.toList),field "root" (Text.quotedPath view.root.toList),
      field "pattern" (Text.quoted view.pattern.toList),
      field "templates" (Text.quotedList view.templateNames),
      field "clauses" (Text.quotedList view.clauses.keys),
      field "resource_name" (Text.quoted view.resourceName.toList),
      field "hash" view.digest.label.toList]
  String.ofList ("View \x7b ".toList ++ Text.joined [',',' '] fields ++ " \x7d".toList)

end View

end ViewTemplates
