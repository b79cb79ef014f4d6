import ViewTemplates.Output.Rendered
import ViewTemplates.Template.Ref

/-! The data handed to a template, with what travels beside it: the inner content of a layout, the
guards of not-found hooks, and the tag of a soft request. -/
namespace ViewTemplates

structure Assigns where
  values : KeyMap Json
  innerContent : Option Rendered := none
  /-- The templates whose not-found hooks were called on the way here, outermost first. -/
  guards : List TemplateRef := []
  /-- The template whose absence yields no result. -/
  softRequest : Option TemplateRef := none

namespace Assigns

def layoutKey : String := "layout"

def innerContentKey : String := "inner_content"

/-- The key that overrides the resource name for collections. -/
def asKey : String := "as"

def empty : Assigns := { values := .empty }

instance : Inhabited Assigns := ⟨empty⟩

/-- The assigns of an object, or of nothing; any other value is the error. -/
def ofJson? : Json → Except Json Assigns
  | .object members => .ok { values := .ofList members }
  | .null => .ok empty
  | value => .error value

def ofList (pairs : List (String × Json)) : Assigns := { values := .ofList pairs }

def get? (a : Assigns) (key : String) : Option Json := a.values.find? key

def contains (a : Assigns) (key : String) : Bool := a.values.contains key

def insert (a : Assigns) (key : String) (value : Json) : Assigns :=
  { a with values := a.values.insert key value }

def erase (a : Assigns) (key : String) : Assigns := { a with values := a.values.erase key }

@[simp] theorem get?_insert (a : Assigns) (key other : String) (value : Json) :
    (a.insert key value).get? other = if other = key then some value else a.get? other := by
  simp [get?,insert]

@[simp] theorem get?_erase (a : Assigns) (key other : String) :
    (a.erase key).get? other = if other = key then none else a.get? other := by
  simp [get?,erase]

@[simp] theorem erase_insert (a : Assigns) (key : String) (value : Json) :
    (a.insert key value).erase key = a.erase key := by
  simp only [insert,erase,mk.injEq,and_true]
  refine KeyMap.eq_of_find?_eq fun other => ?_
  by_cases same : other = key <;> simp [same]

theorem erase_of_get?_eq_none {a : Assigns} {key : String} (absent : a.get? key = none) :
    a.erase key = a := by
  obtain ⟨values,innerContent,guards,softRequest⟩ := a
  simp only [erase,mk.injEq,and_true]
  refine KeyMap.eq_of_find?_eq fun other => ?_
  rw [KeyMap.find?_erase]
  split
  next same => exact same ▸ absent.symm
  next => rfl

def withLayout (a : Assigns) (view template : String) : Assigns :=
  a.insert layoutKey (TemplateRef.toJson ⟨view,template⟩)

def setInnerContent (a : Assigns) (content : Rendered) : Assigns :=
  { a with innerContent := some content }

def clearInnerContent (a : Assigns) : Assigns := { a with innerContent := none }

/-- The layout the values name, and the assigns without it. -/
def takeLayout (a : Assigns) : Except Json (Option TemplateRef) × Assigns :=
  (match a.get? layoutKey with
    | some value => TemplateRef.ofLayout? value
    | none => .ok none,
   a.erase layoutKey)

@[simp] theorem takeLayout_snd (a : Assigns) : a.takeLayout.2 = a.erase layoutKey := rfl

theorem takeLayout_of_get?_eq_none {a : Assigns} (bare : a.get? layoutKey = none) :
    a.takeLayout.1 = .ok none := by
  simp [takeLayout,bare]

/-- A layout that names a view is taken as it was set. -/
theorem takeLayout_withLayout (a : Assigns) {layout : TemplateRef}
    (valid : Naming.isViewName layout.view = true) :
    (a.withLayout layout.view layout.template).takeLayout.1 = .ok (some layout) := by
  simp [takeLayout,withLayout,TemplateRef.toJson,TemplateRef.ofLayout?,valid]

@[simp] theorem erase_withLayout (a : Assigns) (view template : String) :
    (a.withLayout view template).erase layoutKey = a.erase layoutKey := by
  simp [withLayout]

/-- Records a guard, unless it is recorded already. -/
def addGuard? (a : Assigns) (guard : TemplateRef) : Option Assigns :=
  if guard ∈ a.guards then none else some { a with guards := a.guards ++ [guard] }

theorem addGuard?_eq_some_iff {a b : Assigns} {guard : TemplateRef} :
    a.addGuard? guard = some b ↔
      guard ∉ a.guards ∧ b = { a with guards := a.guards ++ [guard] } := by
  unfold addGuard?
  split
  next member => simp [member]
  next fresh => simp [fresh,eq_comm]

def setSoftRequest (a : Assigns) (request : TemplateRef) : Assigns :=
  { a with softRequest := some request }

/-- One object of the values, in which the inner content takes its key. -/
def toJson (a : Assigns) : Json :=
  .ofKeyMap (match a.innerContent with
    | some inner => a.values.insert innerContentKey inner.toJson
    | none => a.values)

end Assigns

inductive Resolved
  | safe (text : String)
  | value (data : Json)

def Resolved.toJson : Resolved → Json
  | .safe text => .string text
  | .value data => data

namespace Path

/-- A position in a list, written in decimal digits with an optional plus sign. -/
def position? (s : List Char) : Option Nat :=
  let digits := match s with
    | '+' :: rest => rest
    | s => s
  if digits.isEmpty || !digits.all Text.isAsciiDigit then none
  else
    let n := digits.foldl (fun n c => n * 10 + (c.toNat - 48)) 0
    if n < Nat.pow 2 64 then some n else none

def step? (value : Json) (part : List Char) : Option Json :=
  match value with
  | .object members => Entries.find? (String.ofList part) members
  | .array items => (position? part).bind fun i => items[i]?
  | _ => none

def follow? (value : Json) (parts : List (List Char)) : Option Json :=
  parts.foldlM step? value

end Path

/-- What a dotted path leads to. Bound inner content hides a value under its key. -/
def Assigns.resolve? (a : Assigns) (path : List Char) : Option Resolved :=
  match Text.pieces '.' path with
  | [] => none
  | head :: rest =>
    let key := String.ofList head
    match (if key = innerContentKey then a.innerContent else none), rest with
    | some (.safe text), [] => some (.safe text)
    | some (.safe _), _ => none
    | some (.data value), rest => (Path.follow? value rest).map .value
    | none, rest => do
      let value ← a.get? key
      (Path.follow? value rest).map .value

end ViewTemplates
