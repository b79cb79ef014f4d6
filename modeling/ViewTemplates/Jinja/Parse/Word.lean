import ViewTemplates.Jinja.Scan
import ViewTemplates.Jinja.Syntax

/-! Words and symbols at the start of the tokens. Every reader returns what it has read and the
tokens after it. -/
namespace ViewTemplates.Jinja

namespace Parse

def isSymbol (ts : List Token) (s : Symbol) : Bool :=
  match ts with
  | .symbol t :: _ => t == s
  | _ => false

def isWord (ts : List Token) (w : String) : Bool :=
  match ts with
  | .word v :: _ => v == w
  | _ => false

def isStatementEnd : List Token → Bool
  | .statementEnd :: _ => true
  | _ => false

def isExpressionEnd : List Token → Bool
  | .expressionEnd :: _ => true
  | _ => false

def symbol (s : Symbol) (ts : List Token) : Option (List Token) :=
  if isSymbol ts s then some ts.tail else none

def word (w : String) (ts : List Token) : Option (List Token) :=
  if isWord ts w then some ts.tail else none

def anyWord : List Token → Option (String × List Token)
  | .word w :: rest => some (w,rest)
  | _ => none

def statementEnd : List Token → Option (List Token)
  | .statementEnd :: rest => some rest
  | _ => none

def expressionEnd : List Token → Option (List Token)
  | .expressionEnd :: rest => some rest
  | _ => none

def furtherNames : List Token → Option (String × List Token)
  | .symbol .dot :: .word w :: rest => (furtherNames rest).map fun p => ("." ++ w ++ p.1,p.2)
  | .symbol .dot :: _ => none
  | ts => some ("",ts)

/-- The name of a filter or test, which may have points in it. -/
def dottedName (ts : List Token) : Option (String × List Token) := do
  let (first,ts) ← anyWord ts
  let (more,ts) ← furtherNames ts
  some (first ++ more,ts)

/-- String literals side by side are one. -/
def strings : List Token → List Char × List Token
  | .string s :: rest =>
    let (more,rest) := strings rest
    (s ++ more,rest)
  | ts => ([],ts)

def reserved : List String := ["true","True","false","False","none","None","loop","self"]

def bindableName (ts : List Token) : Option (String × List Token) := do
  let (name,rest) ← anyWord ts
  if reserved.contains name then none else some (name,rest)

/-- The operators of each level of precedence that associate to the left. -/
def infixOp? (level : Nat) (t : Token) : Option BinaryOp :=
  match level, t with
  | 0, .word "or" => some .or
  | 1, .word "and" => some .and
  | 4, .symbol .plus => some .add
  | 4, .symbol .minus => some .subtract
  | 5, .symbol .tilde => some .concat
  | 6, .symbol .star => some .multiply
  | 6, .symbol .slash => some .divide
  | 6, .symbol .doubleSlash => some .floorDivide
  | 6, .symbol .percent => some .remainder
  | 7, .symbol .power => some .power
  | _, _ => none

def comparison? : Token → Option BinaryOp
  | .symbol .equal => some .equal
  | .symbol .notEqual => some .notEqual
  | .symbol .less => some .less
  | .symbol .lessEqual => some .lessEqual
  | .symbol .greater => some .greater
  | .symbol .greaterEqual => some .greaterEqual
  | .word "in" => some .isIn
  | _ => none

/-- A comparison at the start of the tokens, which may be of two words. -/
def anyComparison? : List Token → Option (BinaryOp × List Token)
  | .word "not" :: .word "in" :: rest => some (.isNotIn,rest)
  | token :: rest => (comparison? token).map fun op => (op,rest)
  | [] => none

def startsTestArg : List Token → Bool
  | .word w :: _ => !(w == "and" || w == "or" || w == "else" || w == "is")
  | .string _ :: _ => true
  | .int _ :: _ => true
  | .float _ :: _ => true
  | .symbol s :: _ =>
    s == .plus || s == .minus || s == .bracketOpen || s == .braceOpen
  | _ => false

def wordExpr (w : String) : Expr :=
  if w == "true" || w == "True" then .literal (.bool true)
  else if w == "false" || w == "False" then .literal (.bool false)
  else if w == "none" || w == "None" then .literal .none
  else .variable w

end Parse

end ViewTemplates.Jinja
