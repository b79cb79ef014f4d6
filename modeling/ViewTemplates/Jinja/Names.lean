import ViewTemplates.Jinja.Syntax

/-! The names that a macro takes from where it is defined. A name counts the first time it is read
in a place where nothing has bound it yet. Some parts of statements are not looked at, so the names
in them are only known if the values of the rendering have them. -/
namespace ViewTemplates.Jinja

/-- The names found so far, and those bound in the scopes around, innermost first. -/
structure Scopes where
  free : List String
  bound : List (List String)

namespace Scopes

def empty : Scopes := ⟨[],[[]]⟩

def bind (s : Scopes) (name : String) : Scopes :=
  match s.bound with
  | [] => { s with bound := [[name]] }
  | scope :: rest => { s with bound := (name :: scope) :: rest }

def bindAll (s : Scopes) (names : List String) : Scopes := names.foldl bind s

/-- A name is read. One that is not bound is free, and bound from here on. -/
def read (s : Scopes) (name : String) : Scopes :=
  if s.bound.any (·.contains name) then s else { s.bind name with free := name :: s.free }

/-- Looks at a part that has a scope of its own. -/
def inner (s : Scopes) (look : Scopes → Scopes) : Scopes :=
  { look { s with bound := [] :: s.bound } with bound := s.bound }

end Scopes

mutual

def Target.names : Target → List String
  | .name name => [name]
  | .list targets => targetNames targets
  | .attribute _ _ => []

def targetNames : List Target → List String
  | [] => []
  | target :: rest => target.names ++ targetNames rest

end

mutual

def Expr.look : Expr → Scopes → Scopes
  | .literal _, s => s
  | .captured, s => s
  | .variable name, s => s.read name
  | .list items, s => lookAll items s
  | .map entries, s => lookEntries entries s
  | .unary _ e, s => e.look s
  | .binary _ a b, s => b.look (a.look s)
  | .comparisons first others, s => lookOthers others (first.look s)
  | .choice c a b, s => lookOption b (a.look (c.look s))
  | .attribute e _, s => e.look s
  | .item e k, s => k.look (e.look s)
  | .slice _ a b c, s => lookOption c (lookOption b (lookOption a s))
  | .call e args, s => lookArgs args (e.look s)
  | .filter _ e args, s => lookArgs args (e.look s)
  | .test _ e args, s => lookArgs args (e.look s)

def lookAll : List Expr → Scopes → Scopes
  | [], s => s
  | e :: rest, s => lookAll rest (e.look s)

def lookOption : Option Expr → Scopes → Scopes
  | none, s => s
  | some e, s => e.look s

def lookEntries : List (Expr × Expr) → Scopes → Scopes
  | [], s => s
  | (k,v) :: rest, s => lookEntries rest (v.look (k.look s))

def lookOthers : List (BinaryOp × Expr) → Scopes → Scopes
  | [], s => s
  | (_,e) :: rest, s => lookOthers rest (e.look s)

def lookArgs : List Arg → Scopes → Scopes
  | [], s => s
  | .positional e :: rest, s => lookArgs rest (e.look s)
  | .keyword _ e :: rest, s => lookArgs rest (e.look s)
  | .spread e :: rest, s => lookArgs rest (e.look s)
  | .keywordSpread e :: rest, s => lookArgs rest (e.look s)

end

mutual

def Stmt.look : Stmt → Scopes → Scopes
  | .text _, s => s
  | .emit e, s => e.look s
  | .forLoop target items condition _ body orElse, s =>
    let loop := s.inner fun s =>
      lookBody body (lookOption condition ((items.look (s.bind "loop")).bindAll target.names))
    loop.inner fun s => lookBody orElse s
  | .choice c a b, s =>
    let whenTrue := (c.look s).inner fun s => lookBody a s
    whenTrue.inner fun s => lookBody b s
  | .bind bindings body, s => s.inner fun s => lookBody body (lookBindings bindings s)
  | .set target e, s => e.look (s.bindAll target.names)
  | .capture target _ body, s => (s.bindAll target.names).inner fun s => lookBody body s
  | .autoescape _ body, s => s.inner fun s => lookBody body s
  | .filterBlock _ body, s => s.inner fun s => lookBody body s
  | .block _ _ body, s => s.inner fun s => lookBody body (s.bind "super")
  | .extend _, s => s
  | .includeTemplate _ _, s => s
  | .importFrom _, s => s
  | .defineMacro name definition, s => definition.look ((s.bind name).bind "caller")
  | .callBlock callee args caller, s =>
    caller.look ((lookArgs args (callee.look s)).bind "caller")
  | .evaluate e, s => e.look s

def lookBody : List Stmt → Scopes → Scopes
  | [], s => s
  | stmt :: rest, s => lookBody rest (stmt.look s)

def lookBindings : List (Target × Expr) → Scopes → Scopes
  | [], s => s
  | (target,e) :: rest, s => lookBindings rest (e.look (s.bindAll target.names))

def Macro.look : Macro → Scopes → Scopes
  | .mk _ parameters defaults body, s => lookBody body (lookAll defaults (s.bindAll parameters))

end

/-- The names that a macro captures when it is defined, its caller among them if it uses one. -/
def Macro.freeNames (definition : Macro) : List String := (definition.look .empty).free

end ViewTemplates.Jinja
