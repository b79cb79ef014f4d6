import ViewTemplates.Decimal.Binary64

/-! The syntax of Jinja templates. -/
namespace ViewTemplates.Jinja

inductive Literal
  | none
  | bool (value : Bool)
  | int (value : Int)
  | float (value : Binary64)
  | string (value : String)
deriving DecidableEq, Repr

inductive UnaryOp
  | not
  | negate
deriving DecidableEq, Repr

inductive BinaryOp
  | or
  | and
  | equal
  | notEqual
  | less
  | lessEqual
  | greater
  | greaterEqual
  | isIn
  | isNotIn
  | add
  | subtract
  | concat
  | multiply
  | divide
  | floorDivide
  | remainder
  | power
deriving DecidableEq, Repr

mutual

inductive Expr
  | literal (value : Literal)
  | variable (name : String)
  | captured
  | list (items : List Expr)
  | map (entries : List (Expr × Expr))
  | unary (op : UnaryOp) (operand : Expr)
  | binary (op : BinaryOp) (left right : Expr)
  | comparisons (first : Expr) (others : List (BinaryOp × Expr))
  | choice (condition whenTrue : Expr) (whenFalse : Option Expr)
  | attribute (subject : Expr) (name : String)
  | item (subject key : Expr)
  | slice (subject : Expr) (start stop step : Option Expr)
  | call (callee : Expr) (args : List Arg)
  | filter (name : String) (subject : Expr) (args : List Arg)
  | test (name : String) (subject : Expr) (args : List Arg)

inductive Arg
  | positional (value : Expr)
  | keyword (name : String) (value : Expr)
  | spread (values : Expr)
  | keywordSpread (values : Expr)

end

/-- What a value is bound to: a name, several by unpacking, or an attribute. -/
inductive Target
  | name (name : String)
  | list (targets : List Target)
  | attribute (subject : Expr) (name : String)

mutual

inductive Stmt
  | text (s : String)
  | emit (value : Expr)
  | forLoop (target : Target) (items : Expr) (condition : Option Expr) (recursive : Bool)
      (body orElse : List Stmt)
  | choice (condition : Expr) (whenTrue whenFalse : List Stmt)
  | bind (bindings : List (Target × Expr)) (body : List Stmt)
  | set (target : Target) (value : Expr)
  | capture (target : Target) (filter : Option Expr) (body : List Stmt)
  | autoescape (enabled : Expr) (body : List Stmt)
  | filterBlock (filter : Expr) (body : List Stmt)
  /-- A named part; one that is required stands for what another template has to give. -/
  | block (name : String) (required : Bool) (body : List Stmt)
  | extend (template : Expr)
  | includeTemplate (template : Expr) (ignoreMissing : Bool)
  | importFrom (template : Expr)
  | defineMacro (name : String) (definition : Macro)
  | callBlock (callee : Expr) (args : List Arg) (caller : Macro)
  | evaluate (value : Expr)

/-- A macro: its name, its parameters, default values for the last of them, and its body. -/
inductive Macro
  | mk (name : String) (parameters : List String) (defaults : List Expr) (body : List Stmt)

end

namespace Macro

def name : Macro → String
  | mk name _ _ _ => name

def parameters : Macro → List String
  | mk _ parameters _ _ => parameters

def defaults : Macro → List Expr
  | mk _ _ defaults _ => defaults

def body : Macro → List Stmt
  | mk _ _ _ body => body

end Macro

mutual

/-- The named blocks of a statement, outermost first: whether each is required, and its body. -/
def blocksOf : Stmt → List (String × Bool × List Stmt)
  | .block name required body => (name,required,body) :: allBlocks body
  | .forLoop _ _ _ _ body orElse => allBlocks body ++ allBlocks orElse
  | .choice _ whenTrue whenFalse => allBlocks whenTrue ++ allBlocks whenFalse
  | .bind _ body => allBlocks body
  | .capture _ _ body => allBlocks body
  | .autoescape _ body => allBlocks body
  | .filterBlock _ body => allBlocks body
  | _ => []

def allBlocks : List Stmt → List (String × Bool × List Stmt)
  | [] => []
  | s :: rest => blocksOf s ++ allBlocks rest

end

instance : Inhabited Expr := ⟨.captured⟩

instance : Inhabited Macro := ⟨.mk "" [] [] []⟩

end ViewTemplates.Jinja
