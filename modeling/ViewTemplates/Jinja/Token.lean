import ViewTemplates.Decimal.Binary64

/-! The tokens of a Jinja template: plain text, and the words of expressions and statements between
the marks that enclose them. -/
namespace ViewTemplates.Jinja

inductive Symbol
  | plus
  | minus
  | star
  | slash
  | doubleSlash
  | percent
  | power
  | bang
  | dot
  | comma
  | colon
  | tilde
  | assign
  | pipe
  | equal
  | notEqual
  | greater
  | greaterEqual
  | less
  | lessEqual
  | bracketOpen
  | bracketClose
  | parenOpen
  | parenClose
  | braceOpen
  | braceClose
deriving DecidableEq, Repr

inductive Token
  | text (s : List Char)
  | expressionStart
  | expressionEnd
  | statementStart
  | statementEnd
  | word (name : String)
  | string (s : List Char)
  | int (value : Nat)
  | float (value : Binary64)
  | symbol (symbol : Symbol)
deriving DecidableEq, Repr

end ViewTemplates.Jinja
