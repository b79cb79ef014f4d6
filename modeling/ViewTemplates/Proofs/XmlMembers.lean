import Mathlib.Data.List.Forall2
import ViewTemplates.Proofs.XmlNames

/-! The members in XML documents. Keys are made element names and gathered into a map again, so an
object keeps all its members if and only if no two of its keys become one name. Where all objects of
a value do, its document writes every member of every one of them. -/
namespace ViewTemplates

namespace Entries

variable {α : Type} {pairs others : List (String × α)}

theorem insert_perm {es : Entries α} {key : String} (fresh : key ∉ es.keys) (value : α) :
    (es.insert key value).Perm ((key,value) :: es) := by
  induction es with
  | nil => exact .refl _
  | cons e rest ih =>
    obtain ⟨k,v⟩ := e
    obtain ⟨differs,later⟩ := List.ne_and_not_mem_of_not_mem_cons fresh
    simp only [insert]
    split
    next => exact .refl _
    next => exact ((ih later).cons _).trans (.swap _ _ _)

/-- A map has all pairs of a listing whose keys are distinct. -/
theorem ofList_perm (distinct : (pairs.map (·.1)).Nodup) : (ofList pairs).Perm pairs := by
  suffices ∀ es : Entries α, (es.keys ++ pairs.map (·.1)).Nodup →
      (pairs.foldl (fun es p => es.insert p.1 p.2) es).Perm (es ++ pairs) from
    this [] distinct
  clear distinct
  induction pairs with
  | nil => exact fun es _ => by simp
  | cons p rest ih =>
    intro es distinct
    have fresh : p.1 ∉ es.keys := fun member =>
      (List.nodup_append.mp distinct).2.2 _ member _ List.mem_cons_self rfl
    have inserted := insert_perm fresh p.2
    have moved : ((es.insert p.1 p.2).keys ++ rest.map (·.1)).Perm
        (es.keys ++ (p :: rest).map (·.1)) := by
      refine ((inserted.map (·.1)).append_right _).trans ?_
      exact List.perm_middle.symm
    refine (ih _ (moved.nodup_iff.mpr distinct)).trans ((inserted.append_right rest).trans ?_)
    exact List.perm_middle.symm

/-- Pairs of distinct keys are told apart by their keys. -/
theorem eq_of_perm (distinct : (pairs.map (·.1)).Nodup)
    (keys : others.map (·.1) = pairs.map (·.1)) (permuted : others.Perm pairs) :
    others = pairs := by
  induction pairs generalizing others with
  | nil => exact permuted.eq_nil
  | cons pair pairs ih =>
    cases others with
    | nil => simp at keys
    | cons other others =>
      obtain ⟨key,later⟩ := List.cons.inj keys
      obtain ⟨fresh,distinctRest⟩ := List.nodup_cons.mp distinct
      have same : other = pair := by
        rcases List.mem_cons.mp (permuted.mem_iff.mp List.mem_cons_self) with same | inPairs
        · exact same
        · exact absurd (List.mem_map.mpr ⟨other,inPairs,key⟩) fresh
      subst same
      rw [ih distinctRest later permuted.cons_inv]

end Entries

namespace Xml

def nameOf (key : String) : String := String.ofList (elementName key.toList)

theorem sanitizedItems_eq_map (items : List Json) : sanitizedItems items = items.map sanitized := by
  induction items with
  | nil => rfl
  | cons item rest ih => rw [sanitizedItems,ih,List.map_cons]

theorem sanitizedMembers_eq_map (members : List (String × Json)) :
    sanitizedMembers members = members.map fun member => (nameOf member.1,sanitized member.2) := by
  induction members with
  | nil => rfl
  | cons member rest ih => rw [sanitizedMembers,ih,List.map_cons,nameOf]

theorem itemElements_eq_flatten (name : List Char) (items : List Json) :
    itemElements name items = (items.map (elements name)).flatten := by
  induction items with
  | nil => rfl
  | cons item rest ih => rw [itemElements,ih,List.map_cons,List.flatten_cons]

theorem memberElements_eq_flatten (members : List (String × Json)) :
    memberElements members =
      (members.map fun member => elements member.1.toList member.2).flatten := by
  induction members with
  | nil => rfl
  | cons member rest ih => rw [memberElements,ih,List.map_cons,List.flatten_cons]

/-- In no object at any depth two keys become one name. -/
inductive DistinctNames : Json → Prop
  | null : DistinctNames .null
  | bool (value : Bool) : DistinctNames (.bool value)
  | number (value : Number) : DistinctNames (.number value)
  | string (value : String) : DistinctNames (.string value)
  | array {items : List Json} (each : ∀ item ∈ items, DistinctNames item) :
      DistinctNames (.array items)
  | object {members : List (String × Json)}
      (distinct : (members.map fun member => nameOf member.1).Nodup)
      (each : ∀ member ∈ members, DistinctNames member.2) : DistinctNames (.object members)

/-- The same data under other keys: every object at every depth has all its members, in some order,
each under the name that its key is made into. -/
inductive Keeps : Json → Json → Prop
  | null : Keeps .null .null
  | bool (value : Bool) : Keeps (.bool value) (.bool value)
  | number (value : Number) : Keeps (.number value) (.number value)
  | string (value : String) : Keeps (.string value) (.string value)
  | array {items kept : List Json} (each : List.Forall₂ Keeps items kept) :
      Keeps (.array items) (.array kept)
  | object {members named kept : List (String × Json)}
      (keys : named.map (·.1) = members.map fun member => nameOf member.1)
      (each : List.Forall₂ Keeps (members.map (·.2)) (named.map (·.2)))
      (all : kept.Perm named) : Keeps (.object members) (.object kept)

/-- The content of an element for a value without parts. -/
def content? : Json → Option (List Char)
  | .null => some []
  | .bool value => some (if value then ['t','r','u','e'] else ['f','a','l','s','e'])
  | .number value => some (numberText value)
  | .string value => some (value.toList.flatMap escape)
  | _ => none

/-- The elements of a value under a name: one with its content, for an array those of its items one
after the other, and for an object one with the elements of all its members, in some order. -/
inductive Writes : String × Json → List Char → Prop
  | leaf {name : String} {value : Json} {content : List Char}
      (whole : content? value = some content) : Writes (name,value) (element name.toList content)
  | array {name : String} {items : List Json} {texts : List (List Char)}
      (each : List.Forall₂ Writes (items.map fun item => (name,item)) texts) :
      Writes (name,.array items) texts.flatten
  | object {name : String} {members : List (String × Json)} {texts arranged : List (List Char)}
      (each : List.Forall₂ Writes (members.map fun member => (nameOf member.1,member.2)) texts)
      (all : arranged.Perm texts) :
      Writes (name,.object members) (element name.toList arranged.flatten)

/-- The document of a value: an object is the element `data` itself, nothing leaves it empty, and
any other value stands in it under `value`. -/
inductive IsDocument : Json → List Char → Prop
  | object {members : List (String × Json)} {text : List Char}
      (writes : Writes ("data",.object members) text) : IsDocument (.object members) text
  | null : IsDocument .null (element "data".toList [])
  | value {value : Json} {text : List Char} (other : ∀ members, value ≠ .object members)
      (present : value ≠ .null) (writes : Writes ("value",value) text) :
      IsDocument value (element "data".toList text)

theorem distinctNames_array_iff {items : List Json} :
    DistinctNames (.array items) ↔ ∀ item ∈ items, DistinctNames item :=
  ⟨fun distinct => by cases distinct; assumption,.array⟩

theorem distinctNames_object_iff {members : List (String × Json)} :
    DistinctNames (.object members) ↔ (members.map fun member => nameOf member.1).Nodup ∧
      ∀ member ∈ members, DistinctNames member.2 :=
  ⟨fun distinct => by cases distinct; exact ⟨‹_›,‹_›⟩,fun ⟨distinct,each⟩ => .object distinct each⟩

theorem keys_sanitizedMembers (members : List (String × Json)) :
    (sanitizedMembers members).map (·.1) = members.map fun member => nameOf member.1 := by
  rw [sanitizedMembers_eq_map,List.map_map]
  rfl

theorem values_sanitizedMembers (members : List (String × Json)) :
    (sanitizedMembers members).map (·.2) = (members.map (·.2)).map sanitized := by
  rw [sanitizedMembers_eq_map,List.map_map,List.map_map]
  rfl

theorem keeps_array_iff {items kept : List Json} :
    Keeps (.array items) (.array kept) ↔ List.Forall₂ Keeps items kept :=
  ⟨fun keeps => by cases keeps; assumption,.array⟩

/-- An object keeps its members where their names are distinct and their values keep theirs. -/
theorem keeps_object_iff {members : List (String × Json)} :
    Keeps (.object members) (sanitized (.object members)) ↔
      (members.map fun member => nameOf member.1).Nodup ∧
        ∀ member ∈ members, Keeps member.2 (sanitized member.2) := by
  have keys := keys_sanitizedMembers members
  have values := values_sanitizedMembers members
  have each : List.Forall₂ Keeps (members.map (·.2)) ((sanitizedMembers members).map (·.2)) ↔
      ∀ member ∈ members, Keeps member.2 (sanitized member.2) := by
    rw [values,List.forall₂_map_right_iff,List.forall₂_same,List.forall_mem_map]
  rw [← keys,← each,sanitized,Json.ofMembers]
  generalize sanitizedMembers members = pairs at *
  constructor
  · intro keeps
    cases keeps with
    | @object _ named _ sameKeys kept all =>
      rw [← keys] at sameKeys
      have distinct : (pairs.map (·.1)).Nodup := by
        rw [← sameKeys]
        exact (all.map Prod.fst).nodup_iff.mp
          (Entries.nodup_keys (Entries.ascending_ofList pairs))
      obtain rfl := Entries.eq_of_perm distinct sameKeys
        (all.symm.trans (Entries.ofList_perm distinct))
      exact ⟨distinct,kept⟩
  · rintro ⟨distinct,kept⟩
    exact .object keys kept (Entries.ofList_perm distinct)

theorem keeps_sanitized_iff (value : Json) :
    Keeps value (sanitized value) ↔ DistinctNames value := by
  induction value using Json.induction with
  | null => exact ⟨fun _ => .null,fun _ => .null⟩
  | bool value => exact ⟨fun _ => .bool value,fun _ => .bool value⟩
  | number value => exact ⟨fun _ => .number value,fun _ => .number value⟩
  | string value => exact ⟨fun _ => .string value,fun _ => .string value⟩
  | array items ih =>
    rw [sanitized,sanitizedItems_eq_map,keeps_array_iff,distinctNames_array_iff,
      List.forall₂_map_right_iff,List.forall₂_same]
    exact forall₂_congr ih
  | object members ih =>
    rw [keeps_object_iff,distinctNames_object_iff]
    exact and_congr_right fun _ => forall₂_congr ih

/-- The elements of a value that keeps all its members. -/
theorem writes_elements {value : Json} (distinct : DistinctNames value) (name : String) :
    Writes (name,value) (elements name.toList (sanitized value)) := by
  induction value using Json.induction generalizing name with
  | null => exact .leaf rfl
  | bool value => cases value <;> exact .leaf rfl
  | number value => exact .leaf rfl
  | string value => exact .leaf rfl
  | array items ih =>
    have each := distinctNames_array_iff.mp distinct
    rw [sanitized,elements,itemElements_eq_flatten,sanitizedItems_eq_map]
    refine .array ?_
    rw [List.map_map,List.forall₂_map_left_iff,List.forall₂_map_right_iff,List.forall₂_same]
    exact fun item member => ih item member (each item member) name
  | object members ih =>
    obtain ⟨names,each⟩ := distinctNames_object_iff.mp distinct
    rw [← keys_sanitizedMembers] at names
    rw [sanitized,Json.ofMembers,elements,memberElements_eq_flatten]
    refine .object ?_ ((Entries.ofList_perm names).map _)
    rw [sanitizedMembers_eq_map,List.map_map,List.forall₂_map_left_iff,List.forall₂_map_right_iff,
      List.forall₂_same]
    exact fun member inside => ih member inside (each member inside) _

theorem isDocument_of_distinctNames {value : Json} (distinct : DistinctNames value) :
    IsDocument value
      (element ['d','a','t','a'] (memberElements (documentMembers (sanitized value)))) := by
  have alone (value : Json) : memberElements [("value",value)] = elements "value".toList value := by
    rw [memberElements,memberElements,List.append_nil]
  cases value with
  | null => exact .null
  | object members => exact .object (writes_elements distinct "data")
  | _ =>
    have written := writes_elements distinct "value"
    rw [← alone] at written
    exact .value (by simp) (by simp) written

/-- Sanitizing a value keeps all members of every object in it if and only if no object has two keys
that become one name. Then the document of the value has all of them. -/
theorem members_kept_iff (value : Json) :
    (Keeps value (sanitized value) ↔ DistinctNames value) ∧
    (DistinctNames value → ∃ text, write value = .ok text ∧ IsDocument value text) :=
  ⟨keeps_sanitized_iff value,fun distinct =>
    ⟨_,write_eq_ok value,isDocument_of_distinctNames distinct⟩⟩

/-- Keys that are made into three names, and a list. -/
def keyed : Json :=
  .object [("",.null),("a b",.object [("1",.string "<")]),("a-b",.array [.bool true,.null])]

theorem members_kept_keyed :
    DistinctNames keyed ∧ Keeps keyed (sanitized keyed) ∧ ∃ text, write keyed = .ok text ∧
      IsDocument keyed text ∧ String.ofList text =
        "<data><_/><a-b>true</a-b><a-b/><a_b><_1>&lt;</_1></a_b></data>" := by
  obtain ⟨kept,documented⟩ := members_kept_iff keyed
  have inner : DistinctNames (.object [("1",.string "<")]) :=
    .object (by decide) (by simp [DistinctNames.string])
  have items : DistinctNames (.array [.bool true,.null]) :=
    .array (by simp [DistinctNames.bool,DistinctNames.null])
  have distinct : DistinctNames keyed :=
    .object (by decide) (by simp [DistinctNames.null,inner,items])
  obtain ⟨text,written,isDocument⟩ := documented distinct
  refine ⟨distinct,kept.mpr distinct,text,written,isDocument,?_⟩
  obtain rfl := Except.ok.inj ((write_eq_ok keyed).symm.trans written)
  decide +kernel

/-- Two keys that are made into one name. -/
def rivalKeys : Json :=
  .object [("a b",.number (.int 1 (by decide))),("a_b",.number (.int 2 (by decide)))]

theorem member_lost :
    ¬Keeps rivalKeys (sanitized rivalKeys) ∧
    write rivalKeys = .ok "<data><a_b>2</a_b></data>".toList := by
  constructor
  · rw [keeps_sanitized_iff,rivalKeys,distinctNames_object_iff]
    exact fun ⟨names,_⟩ => absurd names (by decide)
  · rw [write_eq_ok]
    exact congrArg Except.ok (by decide +kernel)

end Xml

end ViewTemplates
