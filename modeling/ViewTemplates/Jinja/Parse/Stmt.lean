import ViewTemplates.Jinja.Parse.Binding

/-! From the tokens of a template to its statements. -/
namespace ViewTemplates.Jinja

namespace Parse

def isBlankText : Stmt → Bool
  | .text s => s.toList.all Text.isBlank
  | _ => false

mutual

/-- Statements up to one of the words `ends`, or up to the end of the tokens. The tokens returned
begin with that word. -/
def stmts (fuel depth : Nat) (inMacro : Bool) (ends : List String) (ts : List Token) :
    Option (List Stmt × List Token) :=
  match fuel with
  | 0 => none
  | fuel + 1 =>
    match ts with
    | [] => some ([],[])
    | .text s :: rest => do
      let (following,rest) ← stmts fuel depth inMacro ends rest
      some (.text (String.ofList s) :: following,rest)
    | .expressionStart :: rest => do
      let (e,rest) ← expr fuel depth rest
      let rest ← expressionEnd rest
      let (following,rest) ← stmts fuel depth inMacro ends rest
      some (.emit e :: following,rest)
    | .statementStart :: rest =>
      if ends.any (isWord rest ·) then some ([],rest)
      else do
        let (found,rest) ← stmt fuel depth inMacro rest
        let rest ← statementEnd rest
        let (following,rest) ← stmts fuel depth inMacro ends rest
        some (found :: following,rest)
    | _ => none

def body (fuel depth : Nat) (inMacro : Bool) (close : String) (ts : List Token) :
    Option (List Stmt × List Token) :=
  match fuel with
  | 0 => none
  | fuel + 1 => do
    let ts ← statementEnd ts
    let (found,ts) ← stmts fuel depth inMacro [close] ts
    some (found,ts.tail)

def stmt (fuel depth : Nat) (inMacro : Bool) (ts : List Token) : Option (Stmt × List Token) :=
  match fuel, depth with
  | fuel + 1, depth + 1 =>
    match ts with
    | .word "for" :: ts => do
      let (target,ts) ← targets fuel ts
      let ts ← word "in" ts
      let (items,ts) ← level fuel depth 0 ts
      let (condition,ts) ← match word "if" ts with
        | some ts => (expr fuel depth ts).map fun p => (some p.1,p.2)
        | none => some (none,ts)
      let recursive := isWord ts "recursive"
      let ts ← statementEnd (if recursive then ts.tail else ts)
      let (inner,ts) ← stmts fuel depth inMacro ["endfor","else"] ts
      let (orElse,ts) ← match word "else" ts with
        | some ts => body fuel depth inMacro "endfor" ts
        | none => some ([],ts.tail)
      some (.forLoop target items condition recursive inner orElse,ts)
    | .word "if" :: ts => choice fuel depth inMacro ts
    | .word "with" :: ts => do
      let (bound,ts) ← bindings fuel depth false ts
      let (inner,ts) ← body fuel depth inMacro "endwith" ts
      some (.bind bound inner,ts)
    | .word "set" :: ts => do
      let (found,isList,ts) ← setTargets fuel ts
      let target := match found, isList with
        | [target], false => target
        | found, _ => .list found
      if isStatementEnd ts || isSymbol ts .pipe then
        let (filter,ts) ← match symbol .pipe ts with
          | some ts => (filterChain fuel depth none ts).map fun p => (some p.1,p.2)
          | none => some (none,ts)
        let (inner,ts) ← body fuel depth inMacro "endset" ts
        some (.capture target filter inner,ts)
      else
        let ts ← symbol .assign ts
        let (value,ts) ← setValue fuel depth ts
        some (.set target value,ts)
    | .word "autoescape" :: ts => do
      let (enabled,ts) ← expr fuel depth ts
      let (inner,ts) ← body fuel depth inMacro "endautoescape" ts
      some (.autoescape enabled inner,ts)
    | .word "filter" :: ts => do
      let (filter,ts) ← filterChain fuel depth none ts
      let (inner,ts) ← body fuel depth inMacro "endfilter" ts
      some (.filterBlock filter inner,ts)
    | .word "block" :: ts => do
      let (name,ts) ← anyWord ts
      let ts := if isWord ts "scoped" then ts.tail else ts
      let required := isWord ts "required"
      let ts := if required then ts.tail else ts
      if inMacro then none
      else
        let (inner,ts) ← body fuel depth inMacro "endblock" ts
        if required && !inner.all isBlankText then none
        else match ts with
          | .word trailing :: ts =>
            if trailing = name then some (.block name required inner,ts) else none
          | ts => some (.block name required inner,ts)
    | .word "extends" :: ts => (expr fuel depth ts).map fun p => (.extend p.1,p.2)
    | .word "include" :: ts => do
      let (template,ts) ← expr fuel depth ts
      let ts ← contextWords ts
      if isWord ts "ignore" then
        let ts ← word "missing" ts.tail
        let ts ← contextWords ts
        some (.includeTemplate template true,ts)
      else some (.includeTemplate template false,ts)
    | .word "import" :: ts => do
      let (template,ts) ← expr fuel depth ts
      let ts ← word "as" ts
      let (_,ts) ← bindableName ts
      let ts ← contextWords ts
      some (.importFrom template,ts)
    | .word "from" :: ts => do
      let (template,ts) ← expr fuel depth ts
      let ts ← word "import" ts
      let ts ← importNames fuel false ts
      some (.importFrom template,ts)
    | .word "macro" :: ts => do
      let (name,ts) ← anyWord ts
      let ts ← symbol .parenOpen ts
      let (names,defaults,ts) ← parameters fuel depth false false ts
      let (inner,ts) ← body fuel depth true "endmacro" ts
      some (.defineMacro name (.mk name names defaults inner),ts)
    | .word "call" :: ts => do
      let (names,defaults,ts) ← match symbol .parenOpen ts with
        | some ts => parameters fuel depth false false ts
        | none => some ([],[],ts)
      let (e,ts) ← expr fuel depth ts
      let (inner,ts) ← body fuel depth true "endcall" ts
      match e with
      | .call callee args => some (.callBlock callee args (.mk "caller" names defaults inner),ts)
      | _ => none
    | .word "do" :: ts => do
      let (e,ts) ← expr fuel depth ts
      match e with
      | .call _ _ => some (.evaluate e,ts)
      | _ => none
    | _ => none
  | _, _ => none

def choice (fuel depth : Nat) (inMacro : Bool) (ts : List Token) : Option (Stmt × List Token) :=
  match fuel with
  | 0 => none
  | fuel + 1 => do
    let (condition,ts) ← level fuel depth 0 ts
    let ts ← statementEnd ts
    let (whenTrue,ts) ← stmts fuel depth inMacro ["endif","else","elif"] ts
    match ts with
    | .word "else" :: ts =>
      let (whenFalse,ts) ← body fuel depth inMacro "endif" ts
      some (.choice condition whenTrue whenFalse,ts)
    | .word "elif" :: ts =>
      let (whenFalse,ts) ← choice fuel depth inMacro ts
      some (.choice condition whenTrue [whenFalse],ts)
    | ts => some (.choice condition whenTrue [],ts.tail)

end

def depthLimit : Nat := 150

end Parse

/-- The statements of a template, if it is well formed. A block name stands for one block. -/
def parse? (source : String) : Option (List Stmt) := do
  let ts ← tokens? source
  let (found,rest) ← Parse.stmts (32 * (ts.length + 4)) Parse.depthLimit false [] ts
  if !rest.isEmpty then none
  else if ((allBlocks found).map (·.1)).Nodup then some found else none

end ViewTemplates.Jinja
