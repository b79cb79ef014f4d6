import ViewTemplates.Jinja.Parse.Expr

/-! From tokens to the parts of statements that bind names or name filters. -/
namespace ViewTemplates.Jinja

namespace Parse

/-- What no target begins with, so that a comma before it ends a list. -/
def endsTargets (ts : List Token) : Bool :=
  isSymbol ts .parenClose || isExpressionEnd ts || isStatementEnd ts || isWord ts "in"

mutual

def targets (fuel : Nat) (ts : List Token) : Option (Target × List Token) :=
  match fuel with
  | 0 => none
  | fuel + 1 => do
    let (items,isList,ts) ← targetItems fuel false ts
    match items, isList with
    | [target], false => some (target,ts)
    | items, _ => some (.list items,ts)

def targetItems (fuel : Nat) (more : Bool) (ts : List Token) :
    Option (List Target × Bool × List Token) :=
  match fuel with
  | 0 => none
  | fuel + 1 => do
    let ts ← if more then symbol .comma ts else some ts
    if endsTargets ts then some ([],false,ts)
    else
      let (target,ts) ← match symbol .parenOpen ts with
        | some ts => do
          let (target,ts) ← targets fuel ts
          let ts ← symbol .parenClose ts
          some (target,ts)
        | none => (bindableName ts).map fun p => (.name p.1,p.2)
      if isSymbol ts .comma then
        let (items,_,ts) ← targetItems fuel true ts
        some (target :: items,true,ts)
      else some ([target],false,ts)

end

def dotted (fuel : Nat) (e : Expr) (last : Target) (ts : List Token) :
    Option (Target × List Token) :=
  match fuel with
  | 0 => none
  | fuel + 1 =>
    match ts with
    | .symbol .dot :: .word name :: rest =>
      dotted fuel (.attribute e name) (.attribute e name) rest
    | .symbol .dot :: _ => none
    | ts => some (last,ts)

/-- The targets of a `set` statement, with attributes where they are not in parentheses: the targets
and whether they make up a list. -/
def setTargets (fuel : Nat) (ts : List Token) : Option (List Target × Bool × List Token) :=
  match fuel with
  | 0 => none
  | fuel + 1 => do
    let (target,ts) ← match symbol .parenOpen ts with
      | some ts => do
        let (target,ts) ← targets fuel ts
        let ts ← symbol .parenClose ts
        some (target,ts)
      | none => do
        let (name,ts) ← bindableName ts
        dotted fuel (.variable name) (.name name) ts
    match symbol .comma ts with
    | none => some ([target],false,ts)
    | some ts =>
      if endsTargets ts then some ([target],true,ts)
      else
        let (others,_,ts) ← setTargets fuel ts
        some (target :: others,true,ts)

/-- The value of a `set` statement. Several with commas between them, or one with a comma after it,
are a list. -/
def setValue (fuel depth : Nat) (ts : List Token) : Option (Expr × List Token) := do
  let (first,ts) ← expr fuel depth ts
  if isSymbol ts .comma then
    let (others,ts) ← more fuel ts
    some (.list (first :: others),ts)
  else some (first,ts)
where
  more (fuel : Nat) (ts : List Token) : Option (List Expr × List Token) :=
    match fuel with
    | 0 => none
    | fuel + 1 =>
      match symbol .comma ts with
      | none => some ([],ts)
      | some ts =>
        if isStatementEnd ts then some ([],ts)
        else do
          let (e,ts) ← expr fuel depth ts
          let (others,ts) ← more fuel ts
          some (e :: others,ts)

def filterChain (fuel depth : Nat) (found : Option Expr) (ts : List Token) :
    Option (Expr × List Token) :=
  match fuel with
  | 0 => none
  | fuel + 1 =>
    if isStatementEnd ts then found.map fun e => (e,ts)
    else do
      let ts ← if found.isSome then symbol .pipe ts else some ts
      let (name,ts) ← dottedName ts
      let (args,ts) ← match symbol .parenOpen ts with
        | some ts => arguments fuel depth false false ts
        | none => some ([],ts)
      filterChain fuel depth (some (.filter name (found.getD .captured) args)) ts

/-- The parameters of a macro and the defaults of the last of them, after the parenthesis. -/
def parameters (fuel depth : Nat) (more defaulted : Bool) (ts : List Token) :
    Option (List String × List Expr × List Token) :=
  match fuel with
  | 0 => none
  | fuel + 1 =>
    match symbol .parenClose ts with
    | some ts => some ([],[],ts)
    | none => do
      let ts ← if more then symbol .comma ts else some ts
      match more, symbol .parenClose ts with
      | true, some ts => some ([],[],ts)
      | _, _ =>
        let (name,ts) ← bindableName ts
        match symbol .assign ts with
        | some ts =>
          let (value,ts) ← expr fuel depth ts
          let (names,defaults,ts) ← parameters fuel depth true true ts
          some (name :: names,value :: defaults,ts)
        | none =>
          if defaulted then none
          else
            let (names,defaults,ts) ← parameters fuel depth true false ts
            some (name :: names,defaults,ts)

/-- Says about the context of an included template, which make no difference. -/
def contextWords (ts : List Token) : Option (List Token) :=
  if isWord ts "with" || isWord ts "without" then word "context" ts.tail else some ts

def importNames (fuel : Nat) (more : Bool) (ts : List Token) : Option (List Token) :=
  match fuel with
  | 0 => none
  | fuel + 1 => do
    let ts ← if more then symbol .comma ts else some ts
    if isStatementEnd ts then if more then some ts else none
    else
      let (_,ts) ← bindableName ts
      let ts ← if isWord ts "as" then (bindableName ts.tail).map (·.2) else some ts
      if isSymbol ts .comma then importNames fuel true ts else contextWords ts

def bindings (fuel depth : Nat) (more : Bool) (ts : List Token) :
    Option (List (Target × Expr) × List Token) :=
  match fuel with
  | 0 => none
  | fuel + 1 =>
    if isStatementEnd ts then some ([],ts)
    else do
      let ts ← if more then symbol .comma ts else some ts
      let (target,ts) ← match symbol .parenOpen ts with
        | some ts => do
          let (target,ts) ← targets fuel ts
          let ts ← symbol .parenClose ts
          some (target,ts)
        | none => (bindableName ts).map fun p => (.name p.1,p.2)
      let ts ← symbol .assign ts
      let (value,ts) ← expr fuel depth ts
      let (rest,ts) ← bindings fuel depth true ts
      some ((target,value) :: rest,ts)

end Parse

end ViewTemplates.Jinja
