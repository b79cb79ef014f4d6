import ViewTemplates.Jinja.Syntax
import ViewTemplates.Json.Text
import ViewTemplates.Text.Quoted

/-! The values of expressions, and their texts. -/
namespace ViewTemplates.Jinja

/-- A value. A safe string is not escaped again. Lists, maps, macros and loops are objects: each has
a number once it has been made, and two are the same object if their numbers agree. A list is a
sequence or something else to go over; maps list their entries in the order of keys. A macro knows
where it finds the names it has captured and whether it uses a caller. A loop is what its body sees
of it: the position of the item, the number of items, the depth of recursion, and the items beside
the current one. -/
inductive Value
  | undefined
  | none
  | bool (value : Bool)
  | int (value : Int)
  | float (value : Binary64)
  | string (safe : Bool) (text : List Char)
  | list (identity : Option Nat) (sequence : Bool) (items : List Value)
  | map (identity : Option Nat) (entries : List (Value × Value))
  | callable (identity : Option Nat) (definition : Macro) (closure : Nat) (usesCaller : Bool)
  | builtin (name : String)
  | loop (identity index length depth : Nat) (before after : Value)

instance : Inhabited Value := ⟨.undefined⟩

/-- The kinds of values in the order in which values of different kinds are sorted. -/
inductive Kind
  | undefined
  | none
  | bool
  | number
  | string
  | sequence
  | map
  | iterable
  | plain
deriving DecidableEq, Repr

namespace Kind

def rank : Kind → Nat
  | undefined => 0
  | none => 1
  | bool => 2
  | number => 3
  | string => 4
  | sequence => 5
  | map => 6
  | iterable => 7
  | plain => 8

end Kind

namespace Value

def kind : Value → Kind
  | undefined => .undefined
  | none => .none
  | bool _ => .bool
  | int _ => .number
  | float _ => .number
  | string _ _ => .string
  | list _ true _ => .sequence
  | list _ false _ => .iterable
  | map _ _ => .map
  | callable _ _ _ _ => .map
  | builtin _ => .plain
  | loop _ _ _ _ _ _ => .map

def text (s : List Char) : Value := .string false s

def sequence (items : List Value) : Value := .list .none true items

/-- Items to go over that are no sequence, such as a part of a list. -/
def iterable (items : List Value) : Value := .list .none false items

def table (entries : List (Value × Value)) : Value := .map .none entries

mutual

def ofJson : Json → Value
  | .null => .none
  | .bool b => .bool b
  | .number (.int i _) => .int i
  | .number (.float x _) => .float x
  | .string s => .string false s.toList
  | .array items => .sequence (ofItems items)
  | .object members => .table (ofMembers members)

def ofItems : List Json → List Value
  | [] => []
  | item :: rest => ofJson item :: ofItems rest

def ofMembers : List (String × Json) → List (Value × Value)
  | [] => []
  | (key,value) :: rest => (.string false key.toList,ofJson value) :: ofMembers rest

end

mutual

/-- Numbers the new objects in a value, from a first number on; the answer is the value and the next
free number. What has a number keeps it. -/
def numbered : Value → Nat → Value × Nat
  | list .none isSequence items, n =>
    let (items,next) := numberedItems items (n + 1)
    (list (some n) isSequence items,next)
  | map .none entries, n =>
    let (entries,next) := numberedEntries entries (n + 1)
    (map (some n) entries,next)
  | callable .none definition closure usesCaller, n =>
    (callable (some n) definition closure usesCaller,n + 1)
  | value, n => (value,n)

def numberedItems : List Value → Nat → List Value × Nat
  | [], n => ([],n)
  | item :: rest, n =>
    let (item,n) := numbered item n
    let (rest,n) := numberedItems rest n
    (item :: rest,n)

def numberedEntries : List (Value × Value) → Nat → List (Value × Value) × Nat
  | [], n => ([],n)
  | (key,value) :: rest, n =>
    let (key,n) := numbered key n
    let (value,n) := numbered value n
    let (rest,n) := numberedEntries rest n
    ((key,value) :: rest,n)

end

def isObject : Value → Bool
  | list _ _ _ => true
  | map _ _ => true
  | callable _ _ _ _ => true
  | builtin _ => true
  | loop _ _ _ _ _ _ => true
  | _ => false

def isSameObject : Value → Value → Bool
  | list i _ _, list j _ _ => i.isSome && i == j
  | map i _, map j _ => i.isSome && i == j
  | callable i _ _ _, callable j _ _ _ => i.isSome && i == j
  | builtin a, builtin b => a == b
  | loop i _ _ _ _ _, loop j _ _ _ _ _ => i == j
  | _, _ => false

mutual

def quoted : Value → List Char
  | undefined => "undefined".toList
  | none => "None".toList
  | bool true => "True".toList
  | bool false => "False".toList
  | int i => integerText i
  | float x => FloatLayout.nested.text x
  | string _ s => Text.quoted s
  | list _ _ items => '[' :: Text.joined [',',' '] (quotedItems items) ++ [']']
  | map _ entries => '{' :: Text.joined [',',' '] (quotedEntries entries) ++ ['}']
  | callable _ definition _ _ => "<macro ".toList ++ definition.name.toList ++ ['>']
  | builtin name => name.toList
  | loop _ index length _ _ _ =>
    "<loop ".toList ++ integerText index ++ '/' :: integerText length ++ ['>']

def quotedItems : List Value → List (List Char)
  | [] => []
  | item :: rest => quoted item :: quotedItems rest

def quotedEntries : List (Value × Value) → List (List Char)
  | [] => []
  | (key,value) :: rest => (quoted key ++ ':' :: ' ' :: quoted value) :: quotedEntries rest

end

def printed : Value → List Char
  | undefined => []
  | string _ s => s
  | float x => FloatLayout.pointed.text x
  | value => quoted value

/-- Nothing, zero and what is empty count as false. -/
def isTrue : Value → Bool
  | undefined => false
  | none => false
  | bool b => b
  | int i => i != 0
  | float x => !x.isZero
  | string _ s => !s.isEmpty
  | list _ _ items => !items.isEmpty
  | map _ entries => !entries.isEmpty
  | _ => true

def macroKeys : List String := ["name","arguments","caller"]

def loopKeys : List String :=
  ["index0","index","length","revindex","revindex0","first","last","depth","depth0","previtem",
    "nextitem"]

/-- The items of a list, and the keys of what has keys. -/
def parts? : Value → Option (List Value)
  | list _ _ items => some items
  | map _ entries => some (entries.map (·.1))
  | callable _ _ _ _ => some (macroKeys.map fun key => text key.toList)
  | loop _ _ _ _ _ _ => some (loopKeys.map fun key => text key.toList)
  | _ => Option.none

def length? : Value → Option Nat
  | string _ s => some s.length
  | value => value.parts?.map List.length

/-- What iterating over a value gives: items, keys or characters. Nothing has no items. -/
def iterate? : Value → Option (List Value)
  | undefined => some []
  | none => some []
  | string _ s => some (s.map fun c => text [c])
  | value => value.parts?

end Value

end ViewTemplates.Jinja
