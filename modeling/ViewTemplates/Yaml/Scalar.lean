import ViewTemplates.Decimal.Binary64
import ViewTemplates.Text.Digits

/-! What a plain YAML scalar denotes. -/
namespace ViewTemplates.Yaml

inductive Scalar
  | null
  | bool (value : Bool)
  | int (value : Int)
  | float (value : Binary64)
  | text
deriving DecidableEq

namespace Scalar

/-- Digits after a leading zero are text, so that codes keep their zeros. -/
def isPaddedDigits (s : List Char) : Bool :=
  let digits := match s with
    | '-' :: rest => rest
    | '+' :: rest => rest
    | s => s
  match digits with
  | '0' :: c :: rest => (c :: rest).all Text.isAsciiDigit
  | _ => false

/-- An integer in base two, eight, ten or sixteen with a sign before the base. -/
def integer? (s : List Char) : Option Int :=
  let (negative,digits) := match s with
    | '-' :: rest => (true,rest)
    | '+' :: rest => (false,rest)
    | s => (false,s)
  let magnitude := match digits with
    | '0' :: 'x' :: rest => Text.natural? 16 rest
    | '0' :: 'o' :: rest => Text.natural? 8 rest
    | '0' :: 'b' :: rest => Text.natural? 2 rest
    | digits => if isPaddedDigits s then none else Text.natural? 10 digits
  match magnitude with
  | none => none
  | some n =>
    let value : Int := if negative then -(n : Int) else n
    if -Int.pow 2 127 ≤ value ∧ value < Int.pow 2 128 then some value else none

def isWord (words : List String) (s : List Char) : Bool := words.contains (String.ofList s)

def isNull (s : List Char) : Bool := isWord ["null","Null","NULL","~"] s

def bool? (s : List Char) : Option Bool :=
  if isWord ["true","True","TRUE"] s then some true
  else if isWord ["false","False","FALSE"] s then some false
  else none

/-- A float. A decimal too large for a finite number is none. -/
def float? (s : List Char) : Option Binary64 :=
  let (negative,magnitude) := match s with
    | '-' :: rest => (true,rest)
    | '+' :: rest => (false,rest)
    | s => (false,s)
  if isWord [".inf",".Inf",".INF"] magnitude then some (.infinity negative)
  else if isWord [".nan",".NaN",".NAN"] s then some .notANumber
  else do
    let (digits,exponent) ← Text.decimal? magnitude
    let value := Binary64.ofDecimal negative digits exponent
    if value.isFinite then some value else none

def ofPlain (s : List Char) : Scalar :=
  if s.isEmpty ∨ isNull s then .null
  else match bool? s with
    | some b => .bool b
    | none =>
      match integer? s with
      | some i => .int i
      | none =>
        if isPaddedDigits s then .text
        else match float? s with
          | some x => .float x
          | none => .text

end Scalar

end ViewTemplates.Yaml
