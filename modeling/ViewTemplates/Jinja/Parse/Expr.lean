import ViewTemplates.Jinja.Operator
import ViewTemplates.Jinja.Parse.Word

/-! From tokens to expressions. Nesting is bounded, and fuel that suffices comes from the number of
tokens. -/
namespace ViewTemplates.Jinja

namespace Parse

mutual

/-- An expression that may be a choice; `depth` is the nesting still allowed. -/
def expr (fuel depth : Nat) (ts : List Token) : Option (Expr × List Token) :=
  match fuel, depth with
  | fuel + 1, depth + 1 => do
    let (e,ts) ← level fuel depth 0 ts
    choices fuel depth e ts
  | _, _ => none

def choices (fuel depth : Nat) (e : Expr) (ts : List Token) : Option (Expr × List Token) :=
  match fuel with
  | 0 => none
  | fuel + 1 =>
    match word "if" ts with
    | none => some (e,ts)
    | some ts => do
      let (condition,ts) ← level fuel depth 0 ts
      match word "else" ts with
      | none => choices fuel depth (.choice condition e none) ts
      | some ts =>
        let (first,ts) ← level fuel depth 0 ts
        let (orElse,ts) ← choices fuel depth first ts
        choices fuel depth (.choice condition e (some orElse)) ts

/-- An expression of a level of precedence: disjunctions, conjunctions, negations, comparisons,
sums, concatenations, products, powers, and operands with their filters and tests. -/
def level (fuel depth n : Nat) (ts : List Token) : Option (Expr × List Token) :=
  match fuel with
  | 0 => none
  | fuel + 1 =>
    if n = 2 then
      match word "not" ts with
      | some ts => do
        let (e,ts) ← level fuel depth 2 ts
        some (.unary .not e,ts)
      | none => level fuel depth 3 ts
    else if n = 3 then do
      let (first,ts) ← level fuel depth 4 ts
      let (others,ts) ← comparisons fuel depth ts
      match others with
      | [] => some (first,ts)
      | [(op,e)] => some (.binary op first e,ts)
      | others => some (.comparisons first others,ts)
    else if n = 8 then do
      let (e,ts) ← signed fuel depth ts
      filters fuel depth e ts
    else do
      let (e,ts) ← level fuel depth (n + 1) ts
      chain fuel depth n e ts

def chain (fuel depth n : Nat) (left : Expr) (ts : List Token) : Option (Expr × List Token) :=
  match fuel with
  | 0 => none
  | fuel + 1 =>
    match ts.head?.bind (infixOp? n) with
    | none => some (left,ts)
    | some op => do
      let (right,ts) ← level fuel depth (n + 1) ts.tail
      chain fuel depth n (if op = .and then .both left right else .binary op left right) ts

def comparisons (fuel depth : Nat) (ts : List Token) :
    Option (List (BinaryOp × Expr) × List Token) :=
  match fuel with
  | 0 => none
  | fuel + 1 =>
    match anyComparison? ts with
    | none => if isWord ts "not" then none else some ([],ts)
    | some (op,ts) => do
      let (e,ts) ← level fuel depth 4 ts
      let (others,ts) ← comparisons fuel depth ts
      some ((op,e) :: others,ts)

def signed (fuel depth : Nat) (ts : List Token) : Option (Expr × List Token) :=
  match fuel with
  | 0 => none
  | fuel + 1 => do
    let (e,ts) ← signs fuel depth ts
    lookups fuel depth e ts

/-- An operand with signs before it, which bind tighter than what comes after it. -/
def signs (fuel depth : Nat) (ts : List Token) : Option (Expr × List Token) :=
  match fuel with
  | 0 => none
  | fuel + 1 =>
    match symbol .minus ts with
    | some ts => do
      let (e,ts) ← signs fuel depth ts
      some (.unary .negate e,ts)
    | none => primary fuel depth ts

def lookups (fuel depth : Nat) (e : Expr) (ts : List Token) : Option (Expr × List Token) :=
  match fuel with
  | 0 => none
  | fuel + 1 =>
    match ts with
    | .symbol .dot :: .word name :: rest => lookups fuel depth (.attribute e name) rest
    | .symbol .dot :: .int n :: rest =>
      if n < Nat.pow 2 64 then lookups fuel depth (.item e (.literal (.int n))) rest else none
    | .symbol .dot :: _ => none
    | .symbol .bracketOpen :: rest => do
      let (e,rest) ← subscript fuel depth e rest
      lookups fuel depth e rest
    | .symbol .parenOpen :: rest => do
      let (args,rest) ← arguments fuel depth false false rest
      lookups fuel depth (.call e args) rest
    | ts => some (e,ts)

def subscript (fuel depth : Nat) (e : Expr) (ts : List Token) : Option (Expr × List Token) :=
  match fuel with
  | 0 => none
  | fuel + 1 => do
    let (start,ts) ←
      if isSymbol ts .colon then some (none,ts)
      else (expr fuel depth ts).map fun p => (some p.1,p.2)
    match symbol .colon ts, start with
    | none, some key =>
      let ts ← symbol .bracketClose ts
      some (.item e key,ts)
    | none, none => none
    | some ts, start =>
      let (stop,ts) ←
        if isSymbol ts .colon || isSymbol ts .bracketClose then some (none,ts)
        else (expr fuel depth ts).map fun p => (some p.1,p.2)
      let (step,ts) ← match symbol .colon ts with
        | none => some (none,ts)
        | some ts =>
          if isSymbol ts .bracketClose then some (none,ts)
          else (expr fuel depth ts).map fun p => (some p.1,p.2)
      let ts ← symbol .bracketClose ts
      some (.slice e start stop step,ts)

def arguments (fuel depth : Nat) (more keywords : Bool) (ts : List Token) :
    Option (List Arg × List Token) :=
  match fuel with
  | 0 => none
  | fuel + 1 =>
    match symbol .parenClose ts with
    | some ts => some ([],ts)
    | none => do
      let ts ← if more then symbol .comma ts else some ts
      match symbol .parenClose ts with
      | some ts => if more then some ([],ts) else none
      | none =>
        let (arg,isKeyword,ts) ← argument fuel depth keywords ts
        let (args,ts) ← arguments fuel depth true (keywords || isKeyword) ts
        some (arg :: args,ts)

def argument (fuel depth : Nat) (keywords : Bool) (ts : List Token) :
    Option (Arg × Bool × List Token) :=
  match fuel with
  | 0 => none
  | fuel + 1 =>
    match ts with
    | .symbol .power :: rest => do
      let (e,ts) ← expr fuel depth rest
      some (.keywordSpread e,true,ts)
    | .symbol .star :: rest => do
      let (e,ts) ← expr fuel depth rest
      some (.spread e,false,ts)
    | ts => do
      let (e,ts) ← expr fuel depth ts
      match e, symbol .assign ts with
      | .variable name, some ts =>
        let (value,ts) ← expr fuel depth ts
        some (.keyword name value,true,ts)
      | e, _ => if keywords then none else some (.positional e,false,ts)

def filters (fuel depth : Nat) (e : Expr) (ts : List Token) : Option (Expr × List Token) :=
  match fuel with
  | 0 => none
  | fuel + 1 =>
    match ts with
    | .symbol .pipe :: rest => do
      let (name,rest) ← dottedName rest
      let (args,rest) ← match symbol .parenOpen rest with
        | some rest => arguments fuel depth false false rest
        | none => some ([],rest)
      filters fuel depth (.filter name e args) rest
    | .word "is" :: rest => do
      let negated := isWord rest "not"
      let (name,rest) ← dottedName (if negated then rest.tail else rest)
      let (args,rest) ← match symbol .parenOpen rest with
        | some rest => arguments fuel depth false false rest
        | none =>
          if startsTestArg rest then
            (signed fuel depth rest).map fun p => ([.positional p.1],p.2)
          else some ([],rest)
      let test := Expr.test name e args
      filters fuel depth (if negated then .unary .not test else test) rest
    | ts => some (e,ts)

def primary (fuel depth : Nat) (ts : List Token) : Option (Expr × List Token) :=
  match fuel, depth with
  | fuel + 1, depth + 1 =>
    match ts with
    | .word w :: rest => some (wordExpr w,rest)
    | .string s :: rest =>
      let (more,rest) := strings rest
      some (.literal (.string (String.ofList (s ++ more))),rest)
    | .int n :: rest => some (.literal (.int n),rest)
    | .float x :: rest => some (.literal (.float x),rest)
    | .symbol .parenOpen :: rest =>
      match symbol .parenClose rest with
      | some rest => some (.list [],rest)
      | none => do
        let (first,rest) ← expr fuel depth rest
        if isSymbol rest .comma then
          let (items,rest) ← listItems fuel depth true .parenClose rest
          some (.list (first :: items),rest)
        else
          let rest ← symbol .parenClose rest
          some (first,rest)
    | .symbol .bracketOpen :: rest => do
      let (items,rest) ← listItems fuel depth false .bracketClose rest
      some (.list items,rest)
    | .symbol .braceOpen :: rest => do
      let (entries,rest) ← mapEntries fuel depth false rest
      some (.map entries,rest)
    | _ => none
  | _, _ => none

/-- The items of a list up to its end; `more` says that an item came before. -/
def listItems (fuel depth : Nat) (more : Bool) (close : Symbol) (ts : List Token) :
    Option (List Expr × List Token) :=
  match fuel with
  | 0 => none
  | fuel + 1 =>
    match symbol close ts with
    | some ts => some ([],ts)
    | none => do
      let ts ← if more then symbol .comma ts else some ts
      match more, symbol close ts with
      | true, some ts => some ([],ts)
      | _, _ =>
        let (item,ts) ← expr fuel depth ts
        let (items,ts) ← listItems fuel depth true close ts
        some (item :: items,ts)

def mapEntries (fuel depth : Nat) (more : Bool) (ts : List Token) :
    Option (List (Expr × Expr) × List Token) :=
  match fuel with
  | 0 => none
  | fuel + 1 =>
    match symbol .braceClose ts with
    | some ts => some ([],ts)
    | none => do
      let ts ← if more then symbol .comma ts else some ts
      match more, symbol .braceClose ts with
      | true, some ts => some ([],ts)
      | _, _ =>
        let (key,ts) ← expr fuel depth ts
        let ts ← symbol .colon ts
        let (value,ts) ← expr fuel depth ts
        let (entries,ts) ← mapEntries fuel depth true ts
        some ((key,value) :: entries,ts)

end

end Parse

end ViewTemplates.Jinja
