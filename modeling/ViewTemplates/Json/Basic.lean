import ViewTemplates.KeyMap
import ViewTemplates.Decimal.Binary64

/-! Dynamic data: the JSON values that templates read, data templates produce and encoders write.
An object is an ascending listing of its members; every function of the library that builds an
object builds it so. -/
namespace ViewTemplates

/-- The integers that stay integers: those of a signed or an unsigned 64-bit word. -/
def WordRange (i : Int) : Prop := -Int.pow 2 63 ≤ i ∧ i < Int.pow 2 64

instance (i : Int) : Decidable (WordRange i) := inferInstanceAs (Decidable (_ ∧ _))

/-- A number is an integer of word size or a finite binary64 number. -/
inductive Number
  | int (value : Int) (inRange : WordRange value)
  | float (value : Binary64) (finite : value.isFinite = true)
deriving DecidableEq

namespace Number

def zero : Number := .int 0 (by decide)

instance : Inhabited Number := ⟨zero⟩

end Number

inductive Json
  | null
  | bool (value : Bool)
  | number (value : Number)
  | string (value : String)
  | array (items : List Json)
  | object (members : List (String × Json))
deriving BEq, Inhabited

namespace Json

/-- An integer as data; one beyond word size becomes the nearest float, or `null` where there is
none. -/
def ofInt (i : Int) : Json :=
  if h : WordRange i then .number (.int i h)
  else
    let x := Binary64.ofInt i
    if h : x.isFinite = true then .number (.float x h) else .null

/-- A float as data; what is not finite becomes `null`. -/
def ofBinary64 (x : Binary64) : Json :=
  if h : x.isFinite = true then .number (.float x h) else .null

/-- The object of members in any order; of two members with one key the later counts. -/
def ofMembers (members : List (String × Json)) : Json := .object (Entries.ofList members)

def ofKeyMap (map : KeyMap Json) : Json := .object map.entries

def isNull : Json → Bool
  | .null => true
  | _ => false

mutual

/-- Every object at every depth is an ascending listing, so none has two members with one key. -/
def WellFormed : Json → Prop
  | .array items => AllWellFormed items
  | .object members => Entries.Ascending members ∧ MembersWellFormed members
  | _ => True

def AllWellFormed : List Json → Prop
  | [] => True
  | item :: rest => WellFormed item ∧ AllWellFormed rest

def MembersWellFormed : List (String × Json) → Prop
  | [] => True
  | (_,value) :: rest => WellFormed value ∧ MembersWellFormed rest

end

theorem allWellFormed_iff {items : List Json} :
    AllWellFormed items ↔ ∀ item ∈ items, item.WellFormed := by
  induction items with
  | nil => simp [AllWellFormed]
  | cons item rest ih => simp [AllWellFormed,ih]

theorem membersWellFormed_iff {members : List (String × Json)} :
    MembersWellFormed members ↔ ∀ member ∈ members, member.2.WellFormed := by
  induction members with
  | nil => simp [MembersWellFormed]
  | cons member rest ih => simp [MembersWellFormed,ih]

theorem wellFormed_array_iff {items : List Json} :
    (array items).WellFormed ↔ ∀ item ∈ items, item.WellFormed := by
  rw [WellFormed,allWellFormed_iff]

theorem wellFormed_object_iff {members : List (String × Json)} : (object members).WellFormed ↔
    Entries.Ascending members ∧ ∀ member ∈ members, member.2.WellFormed := by
  rw [WellFormed,membersWellFormed_iff]

/-- Induction over data, with the hypothesis for every item of a list and every value of an
object. -/
@[elab_as_elim]
theorem induction {motive : Json → Prop} (null : motive .null) (bool : ∀ value, motive (.bool value))
    (number : ∀ value, motive (.number value)) (string : ∀ value, motive (.string value))
    (array : ∀ items, (∀ item ∈ items, motive item) → motive (.array items))
    (object : ∀ members, (∀ member ∈ members, motive member.2) → motive (.object members)) :
    ∀ value, motive value
  | .null => null
  | .bool value => bool value
  | .number value => number value
  | .string value => string value
  | .array items =>
    array items fun item _inside => induction null bool number string array object item
  | .object members =>
    object members fun member _inside => induction null bool number string array object member.2
decreasing_by
  · have smaller := List.sizeOf_lt_of_mem _inside
    simp only [Json.array.sizeOf_spec]
    omega
  · obtain ⟨key,value⟩ := member
    have smaller := List.sizeOf_lt_of_mem _inside
    simp only [Prod.mk.sizeOf_spec] at smaller
    simp only [Json.object.sizeOf_spec]
    omega

end Json

end ViewTemplates
