import ViewTemplates.Jinja.Fault
import ViewTemplates.Jinja.Order
import ViewTemplates.Text.Digits

/-! Parts of values: attributes, items and slices. -/
namespace ViewTemplates.Jinja

namespace Value

def attribute? (value : Value) (name : String) : Option Value :=
  match value with
  | map _ entries => valueAt? (.text name.toList) entries
  | callable _ definition _ usesCaller =>
    if name = "name" then some (.text definition.name.toList)
    else if name = "arguments" then
      some (.sequence (definition.parameters.map fun parameter => .text parameter.toList))
    else if name = "caller" then some (.bool usesCaller)
    else Option.none
  | loop _ index length depth before after =>
    if name = "index0" then some (.int index)
    else if name = "index" then some (.int (index + 1))
    else if name = "length" then some (.int length)
    else if name = "revindex" then some (.int (length - index))
    else if name = "revindex0" then some (.int (length - index - 1))
    else if name = "first" then some (.bool (index == 0))
    else if name = "last" then some (.bool (index + 1 == length))
    else if name = "depth" then some (.int (depth + 1))
    else if name = "depth0" then some (.int depth)
    else if name = "previtem" then some before
    else if name = "nextitem" then some after
    else Option.none
  | _ => Option.none

def entries? (value : Value) : Option (List (Value × Value)) :=
  let under (keys : List String) : List (Value × Value) :=
    keys.filterMap fun key => (value.attribute? key).map fun v => (.text key.toList,v)
  match value with
  | map _ entries => some entries
  | callable _ _ _ _ => some (under macroKeys)
  | loop _ _ _ _ _ _ => some (under loopKeys)
  | _ => Option.none

/-- The item at a position; a negative one counts from the end. -/
def itemAt? (items : List α) (position : Int) : Option α :=
  if position < 0 then
    let i := items.length + position
    if i < 0 then Option.none else items[i.toNat]?
  else items[position.toNat]?

def item? (value key : Value) : Option Value :=
  match value with
  | map _ entries => valueAt? key entries
  | list _ _ items => key.integer?.bind (itemAt? items)
  | string _ s => (key.integer?.bind (itemAt? s)).map fun c => text [c]
  | value => key.string?.bind fun name => value.attribute? (String.ofList name)

/-- A part of a value, undefined where it is missing. -/
def part (value : Value) (found : Option Value) : Except Fault Value :=
  match value, found with
  | undefined, _ => .error .undefinedSubject
  | _, some found => .ok found
  | _, Option.none => .ok undefined

/-- The position that a part of a path names: a decimal below `2 ^ 64`, a plus sign allowed. -/
def position? (part : List Char) : Option Nat :=
  let digits := match part with
    | '+' :: digits => digits
    | digits => digits
  (Text.natural? 10 digits).filter (· < Nat.pow 2 64)

def path? (value : Value) (path : List Char) : Option Value :=
  (Text.pieces '.' path).foldlM (fun value part =>
    match value, position? part with
    | undefined, _ => Option.none
    | value, some position => some ((value.item? (.int position)).getD undefined)
    | value, Option.none => some ((value.attribute? (String.ofList part)).getD undefined)) value

end Value

def everyNth (step : Nat) (items : List α) : List α :=
  (items.zipIdx.filter fun p => p.2 % step == 0).map (·.1)

/-- A bound of a slice as a position; a negative one counts from the end, and one before the start
lies beyond the end. -/
def bound (length : Nat) (b : Int) : Nat :=
  if b < 0 then
    let i := length + b
    if i < 0 then (Int.pow 2 64 + i).toNat else i.toNat
  else b.toNat

def sliceForward (items : List α) (start : Int) (stop : Option Int) (step : Nat) : List α :=
  let first := bound items.length start
  let last := (stop.map (bound items.length)).getD items.length
  everyNth step ((items.drop first).take (last - first))

def sliceBackward (items : List α) (start stop : Option Int) (step : Nat) : List α :=
  let length := items.length
  let first := match start with
    | none => length - 1
    | some s =>
      if (length : Int) ≤ s then length - 1 else if s < 0 then (length + s).toNat else s.toNat
  let last := match stop with
    | none => 0
    | some s => if s < 0 then (length + s).toNat else s.toNat
  let count := if last = 0 then (first + step) / step else (first - last + step - 1) / step
  (everyNth step ((items.take (first + 1)).drop last).reverse).take count

def sliceItems (items : List α) (start stop : Option Int) (step : Int) : List α :=
  if 0 < step then sliceForward items (start.getD 0) stop step.toNat
  else sliceBackward items start stop (-step).toNat

/-- A bound of a slice, left out where it is nothing. -/
def sliceBound? (value : Value) : Except Fault (Option Int) :=
  match value with
  | .none => .ok none
  | value => match value.word? with
    | some i => .ok (some i)
    | none => .error .badOperation

def Value.slice (value start stop step : Value) : Except Fault Value := do
  let start ← sliceBound? start
  let stop ← sliceBound? stop
  let step := (← sliceBound? step).getD 1
  if step = 0 then .error .badOperation
  else match value with
    | string _ s => .ok (text (sliceItems s start stop step))
    | list _ _ items => .ok (iterable (sliceItems items start stop step))
    | undefined => .ok (sequence [])
    | none => .ok (sequence [])
    | _ => .error .badOperation

end ViewTemplates.Jinja
