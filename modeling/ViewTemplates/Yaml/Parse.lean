import ViewTemplates.Yaml.Node
import ViewTemplates.Yaml.Scan

/-! From tokens to a document. -/
namespace ViewTemplates.Yaml

/-- What is known besides the tokens: tag handles, the numbers of anchor names, and the anchored
nodes. A name that is set again takes the number of names known so far, and of two anchors with one
number the one that begins later counts; `started` counts the anchors that have begun. -/
structure Anchors where
  handles : List (List Char × Utf8.Bytes)
  names : List (List Char × Nat)
  started : Nat
  starts : List (Nat × Nat)
  nodes : List (Nat × Node)

namespace Anchors

def start (handles : List (List Char × Utf8.Bytes)) : Anchors := ⟨handles,[],0,[],[]⟩

/-- Numbers an anchor that begins here; the answer is its place in the order of anchors. -/
def begin (a : Anchors) (name : List Char) : Nat × Anchors :=
  let number := a.names.length
  let names := (name,number) :: a.names.filter (·.1 != name)
  (a.started,{ a with
    names := names, started := a.started + 1, starts := (number,a.started) :: a.starts })

def finish (a : Anchors) (start : Option Nat) (node : Node) : Anchors :=
  match start with
  | some start => { a with nodes := (start,node) :: a.nodes }
  | none => a

def find? (a : Anchors) (number : Nat) : Option Node := do
  let start ← a.starts.lookup number
  a.nodes.lookup start

def resolve? (a : Anchors) (name : TagName) : Option Utf8.Bytes :=
  if name.handle.isEmpty then some name.suffix
  else (a.handles.lookup name.handle).map (· ++ name.suffix)

end Anchors

/-- The anchor and the tag before a node, in either order and at most one of each. -/
structure Properties where
  anchor : Option (List Char)
  tag : Option TagName

def properties : List Token → Properties × List Token
  | .anchor name :: .tag tag :: rest => (⟨some name,some tag⟩,rest)
  | .tag tag :: .anchor name :: rest => (⟨some name,some tag⟩,rest)
  | .anchor name :: rest => (⟨some name,none⟩,rest)
  | .tag tag :: rest => (⟨none,some tag⟩,rest)
  | rest => (⟨none,none⟩,rest)

def Node.empty : Node := .scalar none true []

abbrev Parsed (α : Type) := α × Anchors × List Token

/-- Where a node stands: in brackets, in a block, or as an entry of a block mapping, where a list
may begin without being set in. -/
inductive Position
  | flow
  | block
  | blockEntry
deriving DecidableEq

def endsBlockValue : List Token → Bool
  | .key :: _ => true
  | .value :: _ => true
  | .blockEnd :: _ => true
  | _ => false

mutual

def node (fuel : Nat) (place : Position) (a : Anchors) (ts : List Token) :
    Option (Parsed Node) :=
  match fuel with
  | 0 => none
  | fuel + 1 =>
    match ts with
    | .aliasOf name :: rest => (a.names.lookup name).map fun number => (.aliasOf number,a,rest)
    | ts => do
      let (props,rest) := properties ts
      let tag ← match props.tag with
        | some name => (a.resolve? name).map some
        | none => some none
      let (start,a) := match props.anchor with
        | some name => let (start,a) := a.begin name; (some start,a)
        | none => (none,a)
      let (found,a,rest) ← content fuel place (props.anchor.isSome || tag.isSome) tag a rest
      some (found,a.finish start found,rest)

def content (fuel : Nat) (place : Position) (hasProperties : Bool) (tag : Option Utf8.Bytes)
    (a : Anchors) (ts : List Token) : Option (Parsed Node) :=
  match fuel with
  | 0 => none
  | fuel + 1 =>
    match ts with
    | .scalar plain text :: rest => some (.scalar tag plain text,a,rest)
    | .flowSequenceStart :: rest => do
      let (items,a,rest) ← flowItems fuel true a rest
      some (.sequence tag items,a,rest)
    | .flowMappingStart :: rest => do
      let (entries,a,rest) ← flowEntries fuel true a rest
      some (.mapping tag entries,a,rest)
    | ts =>
      match place, ts with
      | .blockEntry, .blockEntry :: _ => do
        let (items,a,rest) ← looseItems fuel a ts
        some (.sequence tag items,a,rest)
      | .flow, _ => if hasProperties then some (.scalar tag true [],a,ts) else none
      | _, .blockSequenceStart :: rest => do
        let (items,a,rest) ← blockItems fuel a rest
        some (.sequence tag items,a,rest)
      | _, .blockMappingStart :: rest => do
        let (entries,a,rest) ← blockEntries fuel a rest
        some (.mapping tag entries,a,rest)
      | _, ts => if hasProperties then some (.scalar tag true [],a,ts) else none

/-- The entries of a list that is set in, and its end. -/
def blockItems (fuel : Nat) (a : Anchors) (ts : List Token) : Option (Parsed (List Node)) :=
  match fuel with
  | 0 => none
  | fuel + 1 =>
    match ts with
    | .blockEnd :: rest => some ([],a,rest)
    | .blockEntry :: rest => do
      let empty := match rest with
        | .blockEntry :: _ => true
        | .blockEnd :: _ => true
        | _ => false
      let (item,a,rest) ← if empty then some (.empty,a,rest) else node fuel .block a rest
      let (items,a,rest) ← blockItems fuel a rest
      some (item :: items,a,rest)
    | _ => none

/-- The entries of a list that is not set in; anything else ends it. -/
def looseItems (fuel : Nat) (a : Anchors) (ts : List Token) : Option (Parsed (List Node)) :=
  match fuel with
  | 0 => none
  | fuel + 1 =>
    match ts with
    | .blockEntry :: rest => do
      let empty := match rest with
        | .blockEntry :: _ => true
        | rest => endsBlockValue rest
      let (item,a,rest) ← if empty then some (.empty,a,rest) else node fuel .block a rest
      let (items,a,rest) ← looseItems fuel a rest
      some (item :: items,a,rest)
    | ts => some ([],a,ts)

def blockEntries (fuel : Nat) (a : Anchors) (ts : List Token) :
    Option (Parsed (List (Node × Node))) :=
  match fuel with
  | 0 => none
  | fuel + 1 =>
    match ts with
    | .blockEnd :: rest => some ([],a,rest)
    | .key :: rest => do
      let (key,a,rest) ←
        if endsBlockValue rest then some (.empty,a,rest) else node fuel .blockEntry a rest
      let (value,a,rest) ← match rest with
        | .value :: rest =>
          if endsBlockValue rest then some (.empty,a,rest) else node fuel .blockEntry a rest
        | rest => some (.empty,a,rest)
      let (entries,a,rest) ← blockEntries fuel a rest
      some ((key,value) :: entries,a,rest)
    | _ => none

/-- The items of a list in brackets, and its closing bracket. A key makes an item a mapping of one
entry; the token after a missing key is passed over. -/
def flowItems (fuel : Nat) (first : Bool) (a : Anchors) (ts : List Token) :
    Option (Parsed (List Node)) :=
  match fuel with
  | 0 => none
  | fuel + 1 =>
    match ts with
    | .flowSequenceEnd :: rest => some ([],a,rest)
    | ts => do
      let ts ← match first, ts with
        | true, ts => some ts
        | false, .flowEntry :: rest => some rest
        | false, _ => none
      match ts with
      | .flowSequenceEnd :: rest => some ([],a,rest)
      | .key :: rest =>
        let missing := match rest with
          | .value :: _ => true
          | .flowEntry :: _ => true
          | .flowSequenceEnd :: _ => true
          | _ => false
        let (key,a,rest) ← if missing then some (.empty,a,rest.drop 1) else node fuel .flow a rest
        let (value,a,rest) ← match rest with
          | .value :: .flowEntry :: rest => some (.empty,a,.flowEntry :: rest)
          | .value :: .flowSequenceEnd :: rest => some (.empty,a,.flowSequenceEnd :: rest)
          | .value :: rest => node fuel .flow a rest
          | rest => some (.empty,a,rest)
        let (items,a,rest) ← flowItems fuel false a rest
        some (.mapping none [(key,value)] :: items,a,rest)
      | ts =>
        let (item,a,rest) ← node fuel .flow a ts
        let (items,a,rest) ← flowItems fuel false a rest
        some (item :: items,a,rest)

def flowEntries (fuel : Nat) (first : Bool) (a : Anchors) (ts : List Token) :
    Option (Parsed (List (Node × Node))) :=
  match fuel with
  | 0 => none
  | fuel + 1 =>
    match ts with
    | .flowMappingEnd :: rest => some ([],a,rest)
    | ts => do
      let ts ← match first, ts with
        | true, ts => some ts
        | false, .flowEntry :: rest => some rest
        | false, _ => none
      match ts with
      | .flowMappingEnd :: rest => some ([],a,rest)
      | .key :: rest =>
        let missing := match rest with
          | .value :: _ => true
          | .flowEntry :: _ => true
          | .flowMappingEnd :: _ => true
          | _ => false
        let (key,a,rest) ← if missing then some (.empty,a,rest) else node fuel .flow a rest
        let (value,a,rest) ← match rest with
          | .value :: .flowEntry :: rest => some (.empty,a,.flowEntry :: rest)
          | .value :: .flowMappingEnd :: rest => some (.empty,a,.flowMappingEnd :: rest)
          | .value :: rest => node fuel .flow a rest
          | rest => some (.empty,a,rest)
        let (entries,a,rest) ← flowEntries fuel false a rest
        some ((key,value) :: entries,a,rest)
      | ts =>
        let (key,a,rest) ← node fuel .flow a ts
        let (entries,a,rest) ← flowEntries fuel false a rest
        some ((key,.empty) :: entries,a,rest)

end

structure Directives where
  version : Bool
  handles : List (List Char × Utf8.Bytes)

/-- The directives at the start of the tokens: one version at most, of the first major number, and
each handle once. -/
def directives : List Token → Directives → Option (Directives × List Token)
  | .versionDirective major minor :: rest, d =>
    if d.version || major != 1 || !(minor == 1 || minor == 2) then none
    else directives rest { d with version := true }
  | .tagDirective handle beginning :: rest, d =>
    if d.handles.any (·.1 == handle) then none
    else directives rest { d with handles := d.handles ++ [(handle,beginning)] }
  | rest, d => some (d,rest)

def defaultHandles : List (List Char × Utf8.Bytes) :=
  [(['!'],Utf8.encode ['!']),(['!','!'],Utf8.encode "tag:yaml.org,2002:".toList)]

def isDocumentEnd : Token → Bool
  | .documentEnd => true
  | _ => false

/-- What text holds: nothing, or one document. -/
inductive Stream
  | empty
  | document (document : Document)

def stream? (ts : List Token) : Option Stream :=
  match ts with
  | [] => some .empty
  | ts => do
    let (d,rest) ← directives ts ⟨false,[]⟩
    let explicit := d.version || !d.handles.isEmpty
    let (marked,rest) := match rest with
      | .documentStart :: rest => (true,rest)
      | rest => (false,rest)
    if explicit && !marked then none
    else
      let start := Anchors.start (d.handles ++ defaultHandles)
      let isEmpty := match rest with
        | [] => marked
        | .versionDirective _ _ :: _ => marked
        | .tagDirective _ _ :: _ => marked
        | .documentStart :: _ => marked
        | .documentEnd :: _ => marked
        | _ => false
      let (root,a,rest) ←
        if isEmpty then some (.empty,start,rest) else node (4 * rest.length + 4) .block start rest
      match rest.dropWhile isDocumentEnd with
      | [] => some (.document ⟨root,a.find?⟩)
      | _ => none

def ofText? (text : String) : Option Stream := do
  let ts ← tokens? text.toList
  stream? ts

end ViewTemplates.Yaml
