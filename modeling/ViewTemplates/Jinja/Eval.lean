import ViewTemplates.Jinja.Machine
import ViewTemplates.Jinja.Names
import ViewTemplates.Jinja.Operator
import ViewTemplates.Jinja.Test

/-! Evaluating expressions and running statements. Fuel bounds how deep evaluations nest, and the
depth of scopes is bounded, so that fuel for a template can be computed from its length. -/
namespace ViewTemplates.Jinja

open Run

def range (args : Arguments) : Except Fault Value := do
  if !args.keywords.isEmpty then .error .badOperation
  else
    let bounds ← args.positional.mapM fun v =>
      match v with
      | .none => .ok none
      | .undefined => .ok none
      | v => match v.word? with
        | some i => .ok (some i)
        | none => .error .badOperation
    let (first,last,step) ← match bounds with
      | [some n] => .ok (0,n,1)
      | [some n,none] => .ok (0,n,1)
      | [some a,some b] => .ok (a,b,1)
      | [some n,none,step] => .ok (0,n,step.getD 1)
      | [some a,some b,step] => .ok (a,b,step.getD 1)
      | _ => .error .badOperation
    if step = 0 then .error .badOperation
    else
      let count :=
        if 0 < step then (last - first + step - 1) / step else (first - last - step - 1) / -step
      if 100000 < count then .error .badOperation
      else
        .ok (.iterable ((List.range count.toNat).map fun i : Nat => .int (first + i * step)))

mutual

/-- Binds a value to a target; a list target takes as many items or keys as it has targets. -/
def assign (target : Target) (value : Value) : Run Unit :=
  match target with
  | .name name => store name value
  | .attribute _ _ => fail .badOperation
  | .list targets =>
    match value.parts? with
    | some items => assignAll targets items
    | none => fail .badOperation

def assignAll : List Target → List Value → Run Unit
  | [], [] => pure ()
  | t :: ts, v :: vs => do
    assign t v
    assignAll ts vs
  | _, _ => fail .badOperation

end

def iterated (value : Value) : Run (List Value) := ofOption value.iterate? .badOperation

/-- The arguments for a macro's parameters. Too many, unknown ones and ones given twice are
refused. -/
def macroArguments (definition : Macro) (usesCaller : Bool) (args : Arguments) :
    Except Fault (List (String × Value)) :=
  let names := definition.parameters
  if names.length < args.positional.length then .error .badOperation
  else if args.keywords.any fun (name,_) =>
      !(names.contains name || (name == "caller" && usesCaller))
    then .error .badOperation
  else (names.zipIdx).mapM fun (name,i) =>
    match args.positional[i]?, args.keywords.lookup name with
    | some _, some _ => .error .badOperation
    | some v, none => .ok (name,v)
    | none, some v => .ok (name,v)
    | none, none => .ok (name,.undefined)

/-- Whether the values differ from those that the loop was last asked about. -/
def loopChanged (values : List Value) : Run Value := do
  let last := (← currentLoop).bind (·.changed)
  if let some identity ← loopNumber? then
    changeLoop identity fun l => { l with changed := some values }
  pure (.bool !((last.map (Value.itemsEqual · values)).getD false))

def escapingOf (initial : Escaping) (value : Value) : Except Fault Escaping :=
  match value with
  | .string _ s =>
    if s = ['h','t','m','l'] then .ok .markup
    else if s = ['n','o','n','e'] then .ok .none
    else .error .badOperation
  | value =>
    if value.isEqual (.bool true) then .ok (if initial = .none then .markup else initial)
    else .ok .none

mutual

def eval (fuel : Nat) (env : Env) (e : Expr) : Run Value :=
  match fuel with
  | 0 => fail .exhausted
  | fuel + 1 =>
    match e with
    | .literal value => pure value.value
    | .captured => pure env.input
    | .variable name => do pure ((← lookup? env name).getD .undefined)
    | .list items => do made (.sequence (← items.mapM (eval fuel env)))
    | .map entries => do
      let entries ← entries.mapM fun entry => do
        let key ← eval fuel env entry.1
        let value ← eval fuel env entry.2
        pure (key,value)
      made (.ofEntries entries)
    | .unary op e => do ofResult (op.apply (← eval fuel env e))
    | .binary .or a b => do
      let a ← eval fuel env a
      if a.isTrue then pure a else eval fuel env b
    | .binary .and a b => do
      let a ← eval fuel env a
      if a.isTrue then eval fuel env b else pure a
    | .binary op a b => do
      let a ← eval fuel env a
      let b ← eval fuel env b
      made (← ofResult (op.apply a b))
    | .comparisons first others => do
      let first ← eval fuel env first
      let last ← others.foldlM (fun left (op,e) => do
        match left with
        | none => pure none
        | some left =>
          let right ← eval fuel env e
          let holds ← ofResult (op.apply left right)
          pure (if holds.isTrue then some right else none)) (some first)
      pure (.bool last.isSome)
    | .choice condition whenTrue whenFalse => do
      if (← eval fuel env condition).isTrue then eval fuel env whenTrue
      else match whenFalse with
        | some e => eval fuel env e
        | none => pure .undefined
    | .attribute subject name => do
      let subject ← eval fuel env subject
      made (← ofResult (subject.part (subject.attribute? name)))
    | .item subject key => do
      let subject ← eval fuel env subject
      let key ← eval fuel env key
      made (← ofResult (subject.part (subject.item? key)))
    | .slice subject start stop step => do
      let subject ← eval fuel env subject
      let bound (e : Option Expr) : Run Value :=
        match e with
        | some e => eval fuel env e
        | none => pure .none
      let start ← bound start
      let stop ← bound stop
      let step ← bound step
      made (← ofResult (subject.slice start stop step))
    | .call callee args => do
      let args ← arguments fuel env args
      call fuel env callee args
    | .filter name subject args => do
      let subject ← eval fuel env subject
      let args ← arguments fuel env args
      made (← ofResult (Filter.apply (← get).escaping name subject args))
    | .test name subject args => do
      let subject ← eval fuel env subject
      let args ← arguments fuel env args
      let result ← ofResult (Test.apply name subject args)
      pure (.bool result)

/-- The arguments of a call, spread ones put in their places. -/
def arguments (fuel : Nat) (env : Env) (args : List Arg) : Run Arguments :=
  match fuel with
  | 0 => fail .exhausted
  | fuel + 1 =>
    args.foldlM (fun found arg => do
      match arg with
      | .positional e =>
        let v ← eval fuel env e
        pure { found with positional := found.positional ++ [v] }
      | .keyword name e =>
        let v ← eval fuel env e
        pure { found with keywords := (name,v) :: found.keywords }
      | .spread e =>
        let vs ← iterated (← eval fuel env e)
        pure { found with positional := found.positional ++ vs }
      | .keywordSpread e =>
        match ← eval fuel env e with
        | .map _ entries =>
          let named := entries.map fun entry => (String.ofList entry.1.printed,entry.2)
          pure { found with keywords := named.reverse ++ found.keywords }
        | _ => fail .badOperation) ⟨[],[]⟩

def call (fuel : Nat) (env : Env) (callee : Expr) (args : Arguments) : Run Value :=
  match fuel with
  | 0 => fail .exhausted
  | fuel + 1 =>
    match callee with
    | .variable "super" => fail .badOperation
    | .variable "loop" => do
      match (← currentLoop).bind (·.recursion), args.positional with
      | some (target,body), [v] =>
        let items ← iterated v
        let text ← loopOver fuel env target true body items
        captured text
      | _, _ => fail .badOperation
    | .variable name => do
      match ← lookup? env name with
      | some v => callValue fuel env v args
      | none => fail (.unknownFunction name)
    | .attribute (.variable "self") name =>
      match env.blocks.lookup name with
      | some (true,_) => fail (.requiredBlock name)
      | some (false,body) => do
        let text ← inScope {} (execAll fuel env body)
        captured text
      | none => fail (.unknownFunction name)
    | .attribute subject name => do
      let subject ← eval fuel env subject
      match subject, name with
      | .loop _ index _ _ _ _, "cycle" =>
        ofOption (args.positional[index % args.positional.length]?) .badOperation
      | .loop _ _ _ _ _ _, "changed" => loopChanged args.positional
      | subject, name => callValue fuel env ((subject.attribute? name).getD .undefined) args
    | callee => do
      let v ← eval fuel env callee
      callValue fuel env v args

def callValue (fuel : Nat) (env : Env) (callee : Value) (args : Arguments) : Run Value :=
  match fuel with
  | 0 => fail .exhausted
  | fuel + 1 =>
    match callee with
    | .builtin _ => do made (← ofResult (range args))
    | .callable _ definition captures usesCaller => do
      let bound ← ofResult (macroArguments definition usesCaller args)
      let start : Entries Value :=
        if usesCaller then [("caller",(args.keywords.lookup "caller").getD .undefined)] else []
      let inner := { env with blocks := [] }
      let defaults := definition.defaults.reverse.map some
      let parameters := bound.reverse.zipIdx.map fun (p,i) => (p,(defaults[i]?).join)
      let text ← inMacro { locals := start, captured := some captures } do
        for ((name,value),default) in parameters do
          match value, default with
          | .undefined, some e => store name (← eval fuel inner e)
          | value, _ => store name value
        execAll fuel inner definition.body
      captured text
    | _ => fail .badOperation

/-- A macro as a value. It captures the present values of the names it takes from here. -/
def newMacro (env : Env) (definition : Macro) : Run Value := do
  let (caller,names) := definition.freeNames.partition (· == "caller")
  let i ← capture env names
  made (.callable none definition i !caller.isEmpty)

def execAll (fuel : Nat) (env : Env) (body : List Stmt) : Run (List Char) :=
  match fuel with
  | 0 => fail .exhausted
  | fuel + 1 => do
    let texts ← body.mapM (exec fuel env)
    pure texts.flatten

/-- Runs a loop's body for every item, in a scope of its own. What the body binds is forgotten with
the item. -/
def loopOver (fuel : Nat) (env : Env) (target : Target) (recursive : Bool) (body : List Stmt)
    (items : List Value) : Run (List Char) :=
  match fuel with
  | 0 => fail .exhausted
  | fuel + 1 => do
    let around := (← currentLoop).filter (·.recursion.isSome)
    let identity ← newLoop
      ⟨0,items.length,(around.map (·.depth + 1)).getD 0,.undefined,.undefined,none,
        if recursive then some (target,body) else none⟩
    inScope { loop := some identity } do
      let neighbours := (Value.undefined :: items).zip (items.drop 1 ++ [.undefined])
      let texts ← (items.zip neighbours).zipIdx.mapM fun ((item,before,after),i) => do
        changeLoop identity fun l => { l with index := i, before := before, after := after }
        clearLocals
        assign target item
        execAll fuel env body
      pure texts.flatten

/-- Runs a statement; the answer is the text that it writes. -/
def exec (fuel : Nat) (env : Env) (s : Stmt) : Run (List Char) :=
  match fuel with
  | 0 => fail .exhausted
  | fuel + 1 =>
    match s with
    | .text s => pure s.toList
    | .emit e => do
      let v ← eval fuel env e
      pure (written (← get).escaping v)
    | .forLoop target items condition recursive body orElse => do
      let items ← iterated (← eval fuel env items)
      let items ← match condition with
        | none => pure items
        | some condition =>
          inScope {} (items.filterM fun item => do
            assign target item
            pure (← eval fuel env condition).isTrue)
      let text ← loopOver fuel env target recursive body items
      if items.isEmpty then
        let other ← execAll fuel env orElse
        pure (text ++ other)
      else pure text
    | .choice condition whenTrue whenFalse => do
      if (← eval fuel env condition).isTrue then execAll fuel env whenTrue
      else execAll fuel env whenFalse
    | .bind bindings body =>
      inScope {} do
        for (target,e) in bindings do
          assign target (← eval fuel env e)
        execAll fuel env body
    | .set target e => do
      assign target (← eval fuel env e)
      pure []
    | .capture target filter body => do
      let v ← captured (← execAll fuel env body)
      let v ← match filter with
        | some filter => eval fuel { env with input := v } filter
        | none => pure v
      assign target v
      pure []
    | .autoescape enabled body => do
      let v ← eval fuel env enabled
      let escaping ← ofResult (escapingOf env.escaping v)
      withEscaping escaping (execAll fuel env body)
    | .filterBlock filter body => do
      let v ← captured (← execAll fuel env body)
      let v ← eval fuel { env with input := v } filter
      pure (written (← get).escaping v)
    | .block name required body =>
      if required then fail (.requiredBlock name) else inScope {} (execAll fuel env body)
    | .extend e => do
      let _ ← eval fuel env e
      fail .unknownTemplate
    | .includeTemplate e ignoreMissing => do
      let v ← eval fuel env e
      let names := if v.isObject then v.parts?.getD [] else [v]
      match names.find? fun v => v.string?.isNone || v.string? == some env.name.toList with
      | some v =>
        if v.string?.isNone then fail .badOperation
        else deeper 10 (withEscaping env.escaping (execAll fuel env env.body))
      | none => if names.isEmpty || ignoreMissing then pure [] else fail .unknownTemplate
    | .importFrom e => do
      let _ ← eval fuel env e
      fail .unknownTemplate
    | .defineMacro name definition => do
      store name (← newMacro env definition)
      pure []
    | .callBlock callee args caller => do
      let args ← arguments fuel env args
      let caller ← newMacro env caller
      let args := { args with keywords := ("caller",caller) :: args.keywords }
      let v ← call fuel env callee args
      pure (written (← get).escaping v)
    | .evaluate e => do
      let _ ← eval fuel env e
      pure []

end

end ViewTemplates.Jinja
