import ViewTemplates.Jinja.Eval
import ViewTemplates.Jinja.Parse.Stmt

/-! Compiled templates. -/
namespace ViewTemplates.Jinja

/-- The escaping that a template name asks for: by what follows its last dot, after an ending that
only says that it is a template. -/
def escapingFor (name : String) : Escaping :=
  let name := name.toList
  let endings := [".j2",".jinja2",".jinja"].map String.toList
  let name := (endings.findSome? (Text.dropEnding? · name)).getD name
  let last := (Text.pieces '.' name).getLast?.map String.ofList
  if last ∈ [some "html",some "htm",some "xml"] then .markup else .none

structure Template where
  name : String
  body : List Stmt
  globals : Entries Value
  size : Nat

namespace Template

/-- Compiles a source under a name, with texts that are known in it everywhere. -/
def ofSource? (globals : KeyMap String) (name source : String) : Option Template := do
  let body ← parse? source
  some
    { name := name
      body := body
      globals := (globals.map fun value => .text value.toList).entries
      size := source.length }

def env (t : Template) (values : Entries Value) : Env where
  name := t.name
  body := t.body
  blocks := allBlocks t.body
  escaping := escapingFor t.name
  values := values
  globals := t.globals
  input := .undefined

/-- Evaluations nest no deeper than the source is long between one scope and the next. -/
def fuel (t : Template) : Nat := (Machine.depthLimit + 1) * (4 * t.size + 64)

def start (t : Template) (objects : Nat) : Machine where
  frames := [{}]
  captures := #[]
  loops := #[]
  objects := objects
  outerDepth := 0
  escaping := escapingFor t.name

def numbered : Entries Value → Nat → Entries Value × Nat
  | [], n => ([],n)
  | (name,value) :: rest, n =>
    let (value,n) := value.numbered n
    let (rest,n) := numbered rest n
    ((name,value) :: rest,n)

def render (t : Template) (values : Entries Value) : Except Fault (List Char) :=
  let (values,objects) := numbered values 0
  (execAll t.fuel (t.env values) t.body (t.start objects)).map (·.1)

end Template

end ViewTemplates.Jinja
