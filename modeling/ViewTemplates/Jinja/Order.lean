import ViewTemplates.Jinja.Number

/-! Equality, order and membership of values. -/
namespace ViewTemplates.Jinja

/-- Floats in ascending order; the two zeros are equal. -/
def floatKey (x : Binary64) : Int :=
  let n : Int := (x.bits &&& 0x7FFFFFFFFFFFFFFF).toNat
  if x.isNegative then -n else n

namespace Value

/-- Equality of texts and of numbers, which are compared exactly. -/
def scalarsEqual (left right : Value) : Bool :=
  match left, right with
  | string _ a, string _ b => a == b
  | float a, float b => !a.isNaN && !b.isNaN && floatKey a == floatKey b
  | float a, b => b.wholeNumber?.any fun i => compareWithFloat i a == .eq
  | a, float b => a.wholeNumber?.any fun i => compareWithFloat i b == .eq
  | a, b => match a.wholeNumber?, b.wholeNumber? with
    | some i, some j => i == j
    | _, _ => false

mutual

/-- Equality of values. Numbers are equal by value, lists by items, and maps, macros and loops by
what is under their keys. -/
def isEqual : Value → Value → Bool
  | undefined, undefined => true
  | none, none => true
  | list i s a, list j t b => isSameObject (list i s a) (list j t b) || itemsEqual a b
  | map i a, map j b => isSameObject (map i a) (map j b) || entriesEqual a b
  | callable _ a _ b, callable _ c _ d =>
    a.name == c.name && a.parameters == c.parameters && b == d
  | builtin a, builtin b => a == b
  | loop i n l d before after, loop j m k e first last =>
    i == j || (n == m && l == k && d == e && isEqual before first && isEqual after last)
  | a, b => scalarsEqual a b

def itemsEqual : List Value → List Value → Bool
  | [], [] => true
  | a :: as, b :: bs => isEqual a b && itemsEqual as bs
  | _, _ => false

def entriesEqual : List (Value × Value) → List (Value × Value) → Bool
  | [], [] => true
  | (k,v) :: as, (l,w) :: bs => isEqual k l && isEqual v w && entriesEqual as bs
  | _, _ => false

end

def scalarsOrder (left right : Value) : Ordering :=
  match left, right with
  | string _ a, string _ b => compare a b
  | float a, float b => compare (floatKey a) (floatKey b)
  | float a, b => (b.wholeNumber?.map fun i => (compareWithFloat i a).swap).getD .eq
  | a, float b => (a.wholeNumber?.map fun i => compareWithFloat i b).getD .eq
  | a, b => match a.wholeNumber?, b.wholeNumber? with
    | some i, some j => compare i j
    | _, _ => .eq

mutual

/-- The order of values: by kind, and inside a kind by value, item by item for lists and maps. -/
def order : Value → Value → Ordering
  | list i s a, list j t b =>
    (compare (list i s a).kind.rank (list j t b).kind.rank).then (itemsOrder a b)
  | map _ a, map _ b => entriesOrder a b
  | a, b => (compare a.kind.rank b.kind.rank).then (scalarsOrder a b)

def itemsOrder : List Value → List Value → Ordering
  | [], [] => .eq
  | [], _ :: _ => .lt
  | _ :: _, [] => .gt
  | a :: as, b :: bs => (order a b).then (itemsOrder as bs)

def entriesOrder : List (Value × Value) → List (Value × Value) → Ordering
  | [], [] => .eq
  | [], _ :: _ => .lt
  | _ :: _, [] => .gt
  | (k,v) :: as, (l,w) :: bs => (order k l).then ((order v w).then (entriesOrder as bs))

end

def valueAt? (key : Value) : List (Value × Value) → Option Value
  | [] => Option.none
  | (k,v) :: rest => if order k key = .eq then some v else valueAt? key rest

def putEntry (key value : Value) : List (Value × Value) → List (Value × Value)
  | [] => [(key,value)]
  | (k,v) :: rest =>
    match order key k with
    | .lt => (key,value) :: (k,v) :: rest
    | .eq => (k,value) :: rest
    | .gt => (k,v) :: putEntry key value rest

/-- The map of entries in any order; of two with one key the later counts. -/
def ofEntries (entries : List (Value × Value)) : Value :=
  .table (entries.foldl (fun found e => putEntry e.1 e.2 found) [])

/-- Whether a value is in a container: a text in a text, a key in what has keys, an item in a
list. -/
def isIn? (value container : Value) : Option Bool :=
  match container with
  | undefined => some false
  | string _ s => some (Text.occursIn value.printed s)
  | list _ _ items => some (items.any (isEqual value))
  | map _ entries => some (valueAt? value entries).isSome
  | builtin _ => some false
  | container => container.parts?.map (·.any (isEqual value))

end Value

end ViewTemplates.Jinja
