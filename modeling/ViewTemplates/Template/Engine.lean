import ViewTemplates.Template.Basic
import ViewTemplates.Template.Error
import ViewTemplates.Yaml.Decode

/-! Template engines: from sources to templates. -/
namespace ViewTemplates

inductive EngineKind
  | jinja
  | simple
  | data
deriving DecidableEq, Repr

namespace EngineKind

def all : List EngineKind := [.jinja,.simple,.data]

def name : EngineKind → String
  | .jinja => "jinja"
  | .simple => "simple"
  | .data => "data"

def ofName? (name : String) : Option EngineKind := all.find? (·.name == name)

end EngineKind

/-- A built-in engine or the caller's own. Names can be known in all templates of a Jinja engine. -/
inductive Engine
  | jinja (globals : KeyMap String)
  | simple
  | data
  /-- Compiles a source under a template name, or refuses it. -/
  | custom (compile? : (name source : String) → Option (Assigns → Except RenderError Rendered))

namespace Engine

def ofKind : EngineKind → Engine
  | .jinja => .jinja .empty
  | .simple => .simple
  | .data => .data

def compile (engine : Engine) (name source : String) : Except SourceError Template :=
  match engine with
  | .jinja globals =>
    match Jinja.Template.ofSource? globals name source with
    | some template => .ok (.jinja template)
    | none => .error (.malformed name none)
  | .simple =>
    match Segment.parse source.toList with
    | .ok segments => .ok (.simple (Naming.isMarkup name) segments)
    | .error fault => .error (.malformed name (some fault))
  | .data =>
    match (if (Text.trim source.toList).isEmpty then some .null else Yaml.json? source) with
    | some document => .ok (.data (.ofJson document))
    | none => .error (.malformed name none)
  | .custom compile? =>
    match compile? name source with
    | some run => .ok (.custom run)
    | none => .error (.malformed name none)

def compileFile (engine : Engine) (path name : String) (bytes : Utf8.Bytes) :
    Except SourceError Template :=
  match Utf8.decode bytes with
  | .ok source => engine.compile name (String.ofList source)
  | .error _ => .error (.unreadable path)

def defaults : KeyMap Engine :=
  .ofList [("j2",.jinja .empty),("jinja",.jinja .empty),("tmpl",.simple),("yaml",.data)]

end Engine

end ViewTemplates
