import ViewTemplates.Decimal.Binary64

/-! The shortest decimal that reads back as a given binary64 number, and of those the nearest.
All steps are exact `Nat` arithmetic on the grid `10 ^ k`. -/
namespace ViewTemplates

structure Decimal where
  digits : Nat
  exponent : Int
deriving DecidableEq, Repr

/-- Which of two decimals at equal distance is taken. -/
inductive Tie
  | toEven
  | up
deriving DecidableEq, Repr

namespace Decimal

def digitCount (n : Nat) : Nat := (Nat.toDigits 10 n).length

/-- Moves trailing zeros of the digits into the exponent; `fuel` bounds their number. -/
def trim (fuel : Nat) (d : Decimal) : Decimal :=
  match fuel with
  | 0 => d
  | fuel + 1 =>
    if d.digits ≠ 0 ∧ d.digits % 10 = 0 then trim fuel ⟨d.digits / 10,d.exponent + 1⟩ else d

/-- The exponent of the leading digit of `m * 2 ^ q`. Scaled by `10 ^ 350` every positive
binary64 number has a leading digit before the point. -/
def leadingExponent (m : Nat) (q : Int) : Int :=
  (digitCount (m * Nat.pow 2 q.toNat * Nat.pow 10 350 / Nat.pow 2 (-q).toNat) : Int) - 351

/-- The point of the grid `10 ^ k` taken for `x`, if one of the two neighbours of `x` lies among
the reals that round to `x`. Four times the value in grid units is `4 * mantissa * s / b`. -/
def onGrid (tie : Tie) (x : Binary64) (k : Int) : Option Decimal :=
  let q := x.exponent - 2
  let s := Nat.pow 2 q.toNat * Nat.pow 10 (-k).toNat
  let b := Nat.pow 2 (-q).toNat * Nat.pow 10 k.toNat
  let value := 4 * x.mantissa
  let least := (value - if x.gapBelowIsHalf then 1 else 2) * s
  let greatest := (value + 2) * s
  let below := value * s / b
  let inside (c : Nat) : Bool :=
    if x.mantissa % 2 = 0 then least ≤ c * b && c * b ≤ greatest
    else least < c * b && c * b < greatest
  let doubled := 2 * (value * s)
  let middle := (2 * below + 1) * b
  let lower : Option Decimal := some ⟨below,k⟩
  let upper : Option Decimal := some ⟨below + 1,k⟩
  match inside below, inside (below + 1) with
  | false, false => none
  | true, false => lower
  | false, true => upper
  | true, true =>
    if doubled < middle then lower
    else if middle < doubled then upper
    else match tie with
      | .up => upper
      | .toEven => if below % 2 = 0 then lower else upper

/-- The shortest decimal for the magnitude of a finite number other than zero. Seventeen digits
always suffice. -/
def shortest (tie : Tie) (x : Binary64) : Decimal :=
  let top := leadingExponent x.mantissa x.exponent
  let found := (List.range 18).findSome? fun i : Nat => onGrid tie x (top - (i : Int))
  (found.getD ⟨0,0⟩).trim 20

end Decimal

end ViewTemplates
