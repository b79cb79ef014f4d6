import ViewTemplates.Jinja.Filter

/-! Tests: yes-or-no questions about values. -/
namespace ViewTemplates.Jinja

namespace Test

def isInteger : Value → Bool
  | .int _ => true
  | _ => false

def isFloat : Value → Bool
  | .float _ => true
  | _ => false

def isBool (b : Bool) : Value → Bool
  | .bool c => b == c
  | _ => false

/-- Whether a value is a multiple of another one. Beside a float an integer counts as the float that
equals it, if there is one. -/
def divides (divisor value : Value) : Bool :=
  match Pair.by? Value.exactFloat? value divisor with
  | some (.ints a b) => b != 0 && a % b == 0
  | some (.floats a b) => (Arithmetic.floatRemainder a b).isZero
  | _ => false

/-- Whether two values are the same: one object, or equal and of one kind, an integer being of
another kind than a float. -/
def isSame (left right : Value) : Bool :=
  if left.isObject || right.isObject then left.isSameObject right
  else left.kind == right.kind && isInteger left == isInteger right && left.isEqual right

def names : List String :=
  ["defined","undefined","none","true","false","boolean","number","integer","int","float","string",
    "sequence","mapping","iterable","odd","even","safe","escaped","lower","upper","divisibleby",
    "startingwith","endingwith","eq","equalto","==","ne","!=","lt","lessthan","<","le","<=","gt",
    "greaterthan",">","ge",">=","sameas","in","filter","test"]

def apply (name : String) (subject : Value) (args : Arguments) : Except Fault Bool :=
  let alone (result : Bool) : Except Fault Bool :=
    if args.values.isEmpty then .ok result else .error .badOperation
  let ofText (result : List Char → Bool) : Except Fault Bool :=
    match subject.string? with
    | some s => alone (result s)
    | none => .error .badOperation
  let withOne (result : Value → Bool) : Except Fault Bool :=
    match args.values with
    | [other] => .ok (result other)
    | _ => .error .badOperation
  let withText (result : List Char → Bool) : Except Fault Bool :=
    if args.keywords.isEmpty then withOne fun other => result other.printed
    else .error .badOperation
  let remainderByTwo := (subject.integer?.map (· % 2)).getD 2
  if name = "defined" then alone (subject.kind != .undefined)
  else if name = "undefined" then alone (subject.kind == .undefined)
  else if name = "none" then alone (subject.kind == .none)
  else if name = "true" then alone (isBool true subject)
  else if name = "false" then alone (isBool false subject)
  else if name = "boolean" then alone (subject.kind == .bool)
  else if name = "number" then alone (subject.kind == .number)
  else if name = "integer" ∨ name = "int" then alone (isInteger subject)
  else if name = "float" then alone (isFloat subject)
  else if name = "string" then alone (subject.kind == .string)
  else if name = "sequence" then alone (subject.kind == .sequence)
  else if name = "mapping" then alone (subject.kind == .map)
  else if name = "iterable" then alone subject.iterate?.isSome
  else if name = "odd" then alone (remainderByTwo == 1)
  else if name = "even" then alone (remainderByTwo == 0)
  else if name = "safe" ∨ name = "escaped" then alone (Filter.isSafe subject)
  else if name = "lower" then ofText (·.all Text.isLower)
  else if name = "upper" then ofText (·.all Text.isUpper)
  else if name = "filter" then ofText fun s => Filter.names.contains (String.ofList s)
  else if name = "test" then ofText fun s => names.contains (String.ofList s)
  else if name = "divisibleby" then withOne fun other => divides other subject
  else if name = "startingwith" then withText fun s => s.isPrefixOf subject.printed
  else if name = "endingwith" then withText fun s => s.isSuffixOf subject.printed
  else if name = "eq" ∨ name = "equalto" then withOne fun other => subject.isEqual other
  else if name = "ne" then withOne fun other => !subject.isEqual other
  else if name = "lt" ∨ name = "lessthan" then withOne fun other => subject.order other == .lt
  else if name = "le" then withOne fun other => subject.order other != .gt
  else if name = "gt" ∨ name = "greaterthan" then
    withOne fun other => subject.order other == .gt
  else if name = "ge" then withOne fun other => subject.order other != .lt
  else if name = "sameas" then withOne fun other => isSame subject other
  else if name = "in" then withOne fun other => (subject.isIn? other).getD false
  else .error (.unknownTest name)

end Test

end ViewTemplates.Jinja
