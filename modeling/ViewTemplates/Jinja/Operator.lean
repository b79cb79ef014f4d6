import ViewTemplates.Jinja.Fault
import ViewTemplates.Jinja.Order

/-! Operators on values, and expressions whose value is known before any rendering. -/
namespace ViewTemplates.Jinja

def Literal.value : Literal → Value
  | .none => .none
  | .bool b => .bool b
  | .int i => .int i
  | .float x => .float x
  | .string s => .text s.toList

def UnaryOp.apply (op : UnaryOp) (v : Value) : Except Fault Value :=
  match op with
  | .not => .ok (.bool !v.isTrue)
  | .negate => match Arithmetic.negate? v with
    | some v => .ok v
    | none => .error .badOperation

/-- An operator on two values. Of `or` and `and` the answer is one of them. -/
def BinaryOp.apply (op : BinaryOp) (a b : Value) : Except Fault Value :=
  let result? (v : Option Value) : Except Fault Value :=
    match v with
    | some v => .ok v
    | none => .error .badOperation
  match op with
  | .or => .ok (if a.isTrue then a else b)
  | .and => .ok (if a.isTrue then b else a)
  | .equal => .ok (.bool (a.isEqual b))
  | .notEqual => .ok (.bool !(a.isEqual b))
  | .less => .ok (.bool (a.order b == .lt))
  | .lessEqual => .ok (.bool (a.order b != .gt))
  | .greater => .ok (.bool (a.order b == .gt))
  | .greaterEqual => .ok (.bool (a.order b != .lt))
  | .isIn => result? ((a.isIn? b).map .bool)
  | .isNotIn => result? ((a.isIn? b).map fun found => .bool !found)
  | .add => result? (Arithmetic.add? a b)
  | .subtract => result? (Arithmetic.subtract? a b)
  | .concat => .ok (.text (a.printed ++ b.printed))
  | .multiply => result? (Arithmetic.multiply? a b)
  | .divide => result? (Arithmetic.divide? a b)
  | .floorDivide => result? (Arithmetic.floorDivide? a b)
  | .remainder => result? (Arithmetic.remainder? a b)
  | .power => result? (Arithmetic.power? a b)

mutual

/-- The value of an expression of literals, if its operators apply to them. -/
def Expr.constant? : Expr → Option Value
  | .literal value => some value.value
  | .list items => (constants? items).map .sequence
  | .map entries => (constantEntries? entries).map .ofEntries
  | .unary op e => e.constant?.bind fun v => (op.apply v).toOption
  | .binary op a b =>
    match a.constant?, b.constant? with
    | some a, some b => (op.apply a b).toOption
    | _, _ => none
  | .comparisons first others => first.constant?.bind (constantChain? · others)
  | _ => none

def constants? : List Expr → Option (List Value)
  | [] => some []
  | e :: rest => do
    let v ← e.constant?
    let vs ← constants? rest
    some (v :: vs)

def constantEntries? : List (Expr × Expr) → Option (List (Value × Value))
  | [] => some []
  | (key,value) :: rest => do
    let k ← key.constant?
    let v ← value.constant?
    let entries ← constantEntries? rest
    some ((k,v) :: entries)

def constantChain? (left : Value) : List (BinaryOp × Expr) → Option Value
  | [] => some (.bool true)
  | (op,e) :: rest => do
    let right ← e.constant?
    let holds ← (op.apply left right).toOption
    let others ← constantChain? right rest
    some (.bool (holds.isTrue && others.isTrue))

end

/-- The conjunction of two expressions. Of two that are constant it is their truth value. -/
def Expr.both (left right : Expr) : Expr :=
  match left.constant?, right.constant? with
  | some a, some b => .literal (.bool (a.isTrue && b.isTrue))
  | _, _ => .binary .and left right

end ViewTemplates.Jinja
