import ViewTemplates.Yaml.Token

/-! The node tree of a YAML document. An alias names an anchored node by number; the document holds
the anchored nodes beside the tree, because a node may contain an alias of itself. -/
namespace ViewTemplates.Yaml

inductive Node
  | scalar (tag : Option Utf8.Bytes) (plain : Bool) (text : List Char)
  | sequence (tag : Option Utf8.Bytes) (items : List Node)
  | mapping (tag : Option Utf8.Bytes) (entries : List (Node × Node))
  | aliasOf (anchor : Nat)

namespace Node

mutual

/-- The number of marks that a node takes when it is written out: one for a scalar or alias, and
two for a list or mapping besides those of its parts. -/
def size : Node → Nat
  | scalar _ _ _ => 1
  | aliasOf _ => 1
  | sequence _ items => itemsSize items + 2
  | mapping _ entries => entriesSize entries + 2

def itemsSize : List Node → Nat
  | [] => 0
  | item :: rest => size item + itemsSize rest

def entriesSize : List (Node × Node) → Nat
  | [] => 0
  | (key,value) :: rest => size key + size value + entriesSize rest

end

end Node

/-- A document: its root and its anchored nodes by number. -/
structure Document where
  root : Node
  anchored : Nat → Option Node

end ViewTemplates.Yaml
