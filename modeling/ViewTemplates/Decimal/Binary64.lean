/-! Binary64 numbers, given by their bits and read as exact dyadic rationals. -/
namespace ViewTemplates

/-- A binary64 number: sign bit, eleven exponent bits, fifty-two fraction bits. -/
structure Binary64 where
  bits : UInt64
deriving DecidableEq, Repr, Inhabited

namespace Binary64

def ofFloat (x : Float) : Binary64 := ⟨x.toBits⟩

def toFloat (x : Binary64) : Float := .ofBits x.bits

def isNegative (x : Binary64) : Bool := x.bits >>> 63 == 1

def exponentField (x : Binary64) : Nat := ((x.bits >>> 52) &&& 0x7FF).toNat

def fraction (x : Binary64) : Nat := (x.bits &&& 0xFFFFFFFFFFFFF).toNat

def isFinite (x : Binary64) : Bool := x.exponentField != 0x7FF

def isNaN (x : Binary64) : Bool := x.exponentField == 0x7FF && x.fraction != 0

def isZero (x : Binary64) : Bool := x.exponentField == 0 && x.fraction == 0

def neg (x : Binary64) : Binary64 := ⟨x.bits ^^^ 0x8000000000000000⟩

/-- The magnitude of a finite number is `mantissa * 2 ^ exponent`. -/
def mantissa (x : Binary64) : Nat :=
  if x.exponentField = 0 then x.fraction else x.fraction + Nat.pow 2 52

def exponent (x : Binary64) : Int :=
  if x.exponentField = 0 then -1074 else (x.exponentField : Int) - 1075

/-- At a power of two the next smaller number is only half as far away as the next larger. -/
def gapBelowIsHalf (x : Binary64) : Bool := x.fraction == 0 && x.exponentField > 1

/-- The number nearest to `digits * 10 ^ exponent`. Exponents beyond the range of the format are
cut off first: no finite number reaches `10 ^ 309`, and below `10 ^ (-400)` all is zero. -/
def ofDecimal (negative : Bool) (digits : Nat) (exponent : Int) : Binary64 :=
  let leading : Int := (Nat.toDigits 10 digits).length + exponent
  let magnitude : Float :=
    if digits = 0 ∨ leading < -400 then 0.0
    else if 400 < leading then 1.0 / 0.0
    else if exponent < 0 then Float.ofScientific digits true (-exponent).toNat
    else Float.ofScientific digits false exponent.toNat
  let x := ofFloat magnitude
  if negative then x.neg else x

def infinity (negative : Bool) : Binary64 :=
  ⟨if negative then 0xFFF0000000000000 else 0x7FF0000000000000⟩

def notANumber : Binary64 := ⟨0x7FF8000000000000⟩

/-- A word scaled by a power of ten in one multiplication or division, both factors rounded first.
Smaller powers than the format has are divided by in parts; `parts` is how many at most. A product
that is too large is none. -/
def scaled? (negative : Bool) (word : UInt64) (exponent : Int) : Option Binary64 :=
  let power (n : Nat) : Float := Float.ofScientific 1 false n
  let rec divided (parts : Nat) (x : Float) (n : Nat) : Float :=
    match parts with
    | 0 => 0.0
    | parts + 1 => if n ≤ 308 then x / power n else divided parts (x / power 308) (n - 308)
  let word := word.toFloat
  let magnitude? : Option Float :=
    if exponent < 0 then some (divided 4 word (-exponent).toNat)
    else if word == 0.0 then some word
    else if exponent ≤ 308 then some (word * power exponent.toNat)
    else none
  match magnitude?.map ofFloat with
  | some x => if x.isFinite then some (if negative then x.neg else x) else none
  | none => none

def ofInt (i : Int) : Binary64 := ofDecimal (i < 0) i.natAbs 0

end Binary64

end ViewTemplates
