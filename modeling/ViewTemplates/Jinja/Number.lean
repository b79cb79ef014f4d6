import ViewTemplates.Jinja.Value

/-! Numbers: how values count as numbers, and arithmetic on them. Integers have the range of signed
128-bit words; a float on either side makes the other one a float. -/
namespace ViewTemplates.Jinja

def truncated (x : Binary64) : Int :=
  let q := x.exponent
  let n : Int :=
    if 0 ≤ q then x.mantissa * Int.pow 2 q.toNat else x.mantissa / Int.pow 2 (-q).toNat
  if x.isNegative then -n else n

def whole? (x : Binary64) : Option Int :=
  let q := x.exponent
  if !x.isFinite then none
  else if 0 ≤ q || x.mantissa % Nat.pow 2 (-q).toNat == 0 then some (truncated x)
  else none

/-- The order of an integer and a float by their exact values; what is no number comes after all of
them. The greatest words of 64 and 128 bits count as the powers of two after them. -/
def compareWithFloat (i : Int) (x : Binary64) : Ordering :=
  if !x.isFinite then if x.isNegative then .gt else .lt
  else
    let i := if i = Int.pow 2 64 - 1 ∨ i = Int.pow 2 128 - 1 then i + 1 else i
    let q := x.exponent
    let m : Int := if x.isNegative then -x.mantissa else x.mantissa
    if 0 ≤ q then compare i (m * Int.pow 2 q.toNat) else compare (i * Int.pow 2 (-q).toNat) m

def InRange (i : Int) : Prop := -Int.pow 2 127 ≤ i ∧ i < Int.pow 2 127

instance (i : Int) : Decidable (InRange i) := inferInstanceAs (Decidable (_ ∧ _))

def inRange? (i : Int) : Option Value := if InRange i then some (.int i) else none

namespace Value

/-- A value as an integer: a truth value is one or zero, and a float must be whole and fit in a
signed word. The first float that does not fit counts as the greatest word. -/
def integer? : Value → Option Int
  | bool b => some (if b then 1 else 0)
  | int i => if InRange i then some i else .none
  | float x => do
    let i ← whole? x
    if -Int.pow 2 63 ≤ i ∧ i ≤ Int.pow 2 63 then some (min i (Int.pow 2 63 - 1)) else .none
  | _ => .none

def word? (value : Value) : Option Int :=
  value.integer?.filter fun i => -Int.pow 2 63 ≤ i ∧ i < Int.pow 2 63

def float? : Value → Option Binary64
  | bool b => some (.ofInt (if b then 1 else 0))
  | int i => some (.ofInt i)
  | float x => some x
  | _ => .none

def exactFloat? : Value → Option Binary64
  | int i =>
    let x := Binary64.ofInt i
    if compareWithFloat i x = .eq then some x else .none
  | value => value.float?

def wholeNumber? : Value → Option Int
  | bool b => some (if b then 1 else 0)
  | int i => some i
  | _ => .none

def natural? (value : Value) : Option Nat :=
  value.integer?.bind fun i => if 0 ≤ i then some i.toNat else Option.none

def string? : Value → Option (List Char)
  | string _ s => some s
  | _ => .none

end Value

inductive Pair
  | ints (left right : Int)
  | floats (left right : Binary64)
  | texts (left right : List Char)

/-- Makes two values alike, if they are: two texts, a float and a number, or two integers. Beside a
float the other number is taken as a float by `asFloat`. -/
def Pair.by? (asFloat : Value → Option Binary64) (left right : Value) : Option Pair :=
  match left, right with
  | .string _ a, .string _ b => some (.texts a b)
  | .float a, b => (asFloat b).map fun b => .floats a b
  | a, .float b => (asFloat a).map fun a => .floats a b
  | a, b => do
    let a ← a.integer?
    let b ← b.integer?
    some (.ints a b)

def Pair.of? (left right : Value) : Option Pair := Pair.by? Value.float? left right

namespace Arithmetic

def onFloats (f : Float → Float → Float) (a b : Binary64) : Value :=
  .float (.ofFloat (f a.toFloat b.toFloat))

/-- The remainder of a division toward zero; it has the sign of the dividend. -/
def floatRemainder (a b : Binary64) : Binary64 :=
  if a.isNaN || b.isNaN || !a.isFinite || b.isZero then .ofFloat (0.0 / 0.0)
  else if !b.isFinite then a
  else
    let q := min a.exponent b.exponent
    let m := a.mantissa * Nat.pow 2 (a.exponent - q).toNat
    let n := b.mantissa * Nat.pow 2 (b.exponent - q).toNat
    let r := Binary64.ofFloat (Float.scaleB (Float.ofNat (m % n)) q)
    if a.isNegative then r.neg else r

def floatTrunc (x : Float) : Float := if x < 0.0 then x.ceil else x.floor

/-- The quotient that leaves a remainder of zero or more. -/
def floatFloorDivide (a b : Binary64) : Binary64 :=
  let q := floatTrunc (a.toFloat / b.toFloat)
  .ofFloat
    (if (floatRemainder a b).toFloat < 0.0 then
      (if 0.0 < b.toFloat then q - 1.0 else q + 1.0)
    else q)

def add? (left right : Value) : Option Value :=
  match left, right with
  | .list _ _ a, .list _ _ b => some (.iterable (a ++ b))
  | left, right =>
    match Pair.of? left right with
    | some (.ints a b) => inRange? (a + b)
    | some (.floats a b) => some (onFloats (· + ·) a b)
    | some (.texts a b) => some (.text (a ++ b))
    | none => none

def subtract? (left right : Value) : Option Value :=
  match Pair.of? left right with
  | some (.ints a b) => inRange? (a - b)
  | some (.floats a b) => some (onFloats (· - ·) a b)
  | _ => none

/-- A product; a text or a list is repeated. -/
def multiply? (left right : Value) : Option Value :=
  let times (repeated : Nat → Value) (count : Value) := count.natural?.map repeated
  match left, right with
  | .string _ s, n => times (fun n => .text (List.replicate n s).flatten) n
  | n, .string _ s => times (fun n => .text (List.replicate n s).flatten) n
  | .list _ _ items, n => times (fun n => .iterable (List.replicate n items).flatten) n
  | n, .list _ _ items => times (fun n => .iterable (List.replicate n items).flatten) n
  | left, right =>
    match Pair.of? left right with
    | some (.ints a b) => inRange? (a * b)
    | some (.floats a b) => some (onFloats (· * ·) a b)
    | _ => none

/-- A quotient, always a float. -/
def divide? (left right : Value) : Option Value := do
  let a ← left.float?
  let b ← right.float?
  some (onFloats (· / ·) a b)

def floorDivide? (left right : Value) : Option Value :=
  match Pair.of? left right with
  | some (.ints a b) => if b = 0 then none else inRange? (a / b)
  | some (.floats a b) => some (.float (floatFloorDivide a b))
  | _ => none

/-- The remainder: of integers zero or more, of floats with the sign of the dividend. -/
def remainder? (left right : Value) : Option Value :=
  match Pair.of? left right with
  | some (.ints a b) => if b = 0 then none else inRange? (a % b)
  | some (.floats a b) => some (.float (floatRemainder a b))
  | _ => none

/-- An integer power in range; the exponents tried are those that can be. -/
def intPower? (a b : Int) : Option Value :=
  if b < 0 ∨ Int.pow 2 32 ≤ b then none
  else if a = 0 ∨ a = 1 then some (.int (if b = 0 then 1 else a))
  else if a = -1 then some (.int (if b % 2 = 0 then 1 else -1))
  else if 128 < b then none
  else inRange? (a.pow b.toNat)

def power? (left right : Value) : Option Value :=
  match Pair.of? left right with
  | some (.ints a b) => intPower? a b
  | some (.floats a b) => some (onFloats Float.pow a b)
  | _ => none

def negate? : Value → Option Value
  | .int i => if i = Int.pow 2 127 then some (.int i) else if InRange i then inRange? (-i) else none
  | .float x => some (.float x.neg)
  | _ => none

end Arithmetic

end ViewTemplates.Jinja
