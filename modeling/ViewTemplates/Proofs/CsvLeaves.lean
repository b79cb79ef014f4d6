import Mathlib.Data.List.Forall2
import ViewTemplates.Csv

/-! Flattening as a table of leaves. A leaf is named by the keys that lead to it, and plain keys can
be read off its name again. So each column holds the leaves of one name, at most one of each
element. -/
namespace ViewTemplates

namespace Json

/-- A key that can be told apart from its neighbours in a dotted name. -/
def IsPlainKey (key : String) : Prop := key ≠ "" ∧ '.' ∉ key.toList

instance (key : String) : Decidable (IsPlainKey key) := inferInstanceAs (Decidable (_ ∧ _))

/-- The keys of all objects at every depth are plain. -/
inductive PlainKeys : Json → Prop
  | null : PlainKeys .null
  | bool (value : Bool) : PlainKeys (.bool value)
  | number (value : Number) : PlainKeys (.number value)
  | string (value : String) : PlainKeys (.string value)
  | array {items : List Json} (each : ∀ item ∈ items, PlainKeys item) : PlainKeys (.array items)
  | object {members : List (String × Json)} (named : ∀ member ∈ members, IsPlainKey member.1)
      (each : ∀ member ∈ members, PlainKeys member.2) : PlainKeys (.object members)

end Json

namespace Csv

open Json (IsPlainKey PlainKeys)

/-- The leaves of an element: the keys that lead to one, and its text. Null is no leaf, and an array
is a leaf as a whole. -/
inductive Leaf : Json → List String → String → Prop
  | bool (value : Bool) : Leaf (.bool value) [] (Json.bool value).text
  | number (value : Number) : Leaf (.number value) [] (Json.number value).text
  | string (value : String) : Leaf (.string value) [] value
  | array (items : List Json) : Leaf (.array items) [] (Json.array items).text
  | empty : Leaf (.object []) [] "\x7b\x7d"
  | member {members : List (String × Json)} {key : String} {value : Json} {path : List String}
      {text : String} (inside : (key,value) ∈ members) (leaf : Leaf value path text) :
      Leaf (.object members) (key :: path) text

def dotted (keys : List String) : String :=
  String.ofList (Text.joined ['.'] (keys.map String.toList))

def leafName : List String → String
  | [] => "value"
  | keys => dotted keys

/-- What stands for an element under a header: its only leaf of that name, or nothing where it has
none. -/
def IsCell (element : Json) (header cell : String) : Prop :=
  (∃ path, Leaf element path cell ∧ leafName path = header ∧
    ∀ other text, Leaf element other text → leafName other = header →
      other = path ∧ text = cell) ∨
  cell = "" ∧ ∀ path text, Leaf element path text → leafName path ≠ header

/-! ### Names -/

theorem dotted_eq_empty_iff {keys : List String} (plain : ∀ key ∈ keys, IsPlainKey key) :
    dotted keys = "" ↔ keys = [] := by
  refine ⟨fun empty => ?_,fun none => none ▸ rfl⟩
  cases keys with
  | nil => rfl
  | cons key keys =>
    obtain ⟨rest,starts⟩ :=
      Text.exists_joined_cons ['.'] key.toList (keys.map String.toList)
    have blank := congrArg String.toList empty
    simp only [dotted,List.map_cons,starts,String.toList_ofList] at blank
    have := (plain key List.mem_cons_self).1
    simp_all

theorem dotted_concat {keys : List String} (nonempty : keys ≠ []) (key : String) :
    dotted (keys ++ [key]) = dotted keys ++ "." ++ key := by
  rw [dotted,List.map_append,List.map_singleton,Text.joined_concat (by simpa using nonempty)]
  simp [dotted,String.append_assoc]

theorem pieces_dotted {keys : List String} (plain : ∀ key ∈ keys, IsPlainKey key)
    (nonempty : keys ≠ []) :
    (Text.pieces '.' (dotted keys).toList).map String.ofList = keys := by
  have dotless : ∀ part ∈ keys.map String.toList, '.' ∉ part :=
    List.forall_mem_map.mpr fun key member => (plain key member).2
  rw [dotted,String.toList_ofList,Text.pieces_joined (by simpa using nonempty) dotless]
  simp

theorem dotted_injective {keys others : List String} (plain : ∀ key ∈ keys, IsPlainKey key)
    (plain' : ∀ key ∈ others, IsPlainKey key) (same : dotted keys = dotted others) :
    keys = others := by
  by_cases none : keys = []
  · subst none
    exact ((dotted_eq_empty_iff plain').mp same.symm).symm
  · have none' : others ≠ [] := fun isNil =>
      none ((dotted_eq_empty_iff plain).mp (same.trans (isNil ▸ rfl)))
    rw [← pieces_dotted plain none,same,pieces_dotted plain' none']

/-! ### Leaves of one element -/

theorem Leaf.plain {value : Json} {path : List String} {text : String} (plain : PlainKeys value)
    (leaf : Leaf value path text) : ∀ key ∈ path, IsPlainKey key := by
  induction leaf with
  | member inside leaf ih =>
    cases plain with
    | object named each => exact List.forall_mem_cons.mpr ⟨named _ inside,ih (each _ inside)⟩
  | _ => simp

theorem Leaf.eq_of_whole {value : Json} {path : List String} {own text : String}
    (whole : Leaf value [] own) (leaf : Leaf value path text) : path = [] ∧ text = own := by
  cases whole with
  | empty =>
    cases leaf with
    | empty => exact ⟨rfl,rfl⟩
    | member inside leaf => cases inside
  | _ => cases leaf; exact ⟨rfl,rfl⟩

theorem Leaf.text_unique {value : Json} {path : List String} {text other : String}
    (wellFormed : value.WellFormed) (left : Leaf value path text) (right : Leaf value path other) :
    text = other := by
  induction left with
  | member inside leaf ih =>
    obtain ⟨ascending,wellFormed⟩ := Json.wellFormed_object_iff.mp wellFormed
    cases right with
    | member inside' leaf' =>
      have found := Entries.find?_of_mem ascending inside'
      rw [Entries.find?_of_mem ascending inside] at found
      obtain rfl := Option.some.inj found
      exact ih (wellFormed _ inside) leaf'
  | _ => cases right; rfl

theorem Leaf.path_unique {value : Json} {path path' : List String} {text other : String}
    (plain : PlainKeys value) (left : Leaf value path text) (right : Leaf value path' other)
    (same : leafName path = leafName path') : path = path' := by
  cases path with
  | nil => exact (left.eq_of_whole right).1.symm
  | cons key keys =>
    cases path' with
    | nil => exact (right.eq_of_whole left).1
    | cons key' keys' => exact dotted_injective (left.plain plain) (right.plain plain) same

/-! ### The cells that are met -/

theorem memberCells_eq_flatMap (path : String) (members : List (String × Json)) :
    memberCells path members = members.flatMap fun member =>
      cells (if path = "" then member.1 else path ++ "." ++ member.1) member.2 := by
  induction members with
  | nil => rfl
  | cons member rest ih => rw [memberCells,ih,List.flatMap_cons]

theorem cells_object (path : String) {members : List (String × Json)} (filled : members ≠ []) :
    cells path (.object members) = memberCells path members := by
  cases members with
  | nil => exact absurd rfl filled
  | cons member rest => rfl

section

variable {above : List String}

theorem ite_dotted_eq_leafName (plain : ∀ key ∈ above, IsPlainKey key) :
    (if dotted above = "" then "value" else dotted above) = leafName above := by
  simp only [dotted_eq_empty_iff plain]
  cases above <;> rfl

theorem ite_dotted_eq_dotted_concat (plain : ∀ key ∈ above, IsPlainKey key) (key : String) :
    (if dotted above = "" then key else dotted above ++ "." ++ key) = dotted (above ++ [key]) := by
  simp only [dotted_eq_empty_iff plain]
  split
  next none => simp [none,dotted,Text.joined]
  next nonempty => exact (dotted_concat nonempty key).symm

theorem mem_ownCell_iff (plain : ∀ key ∈ above, IsPlainKey key) {value : Json} {own : String}
    (whole : Leaf value [] own) {name text : String} :
    (name,text) ∈ [(if dotted above = "" then "value" else dotted above,own)] ↔
      ∃ path, Leaf value path text ∧ leafName (above ++ path) = name := by
  rw [ite_dotted_eq_leafName plain,List.mem_singleton,Prod.mk.injEq]
  constructor
  · rintro ⟨rfl,rfl⟩
    exact ⟨[],whole,by rw [List.append_nil]⟩
  · rintro ⟨path,leaf,rfl⟩
    obtain ⟨rfl,rfl⟩ := whole.eq_of_whole leaf
    exact ⟨by rw [List.append_nil],rfl⟩

/-- The cells of a value below some keys are its leaves, each named by all keys that lead to it. -/
theorem mem_cells_iff {value : Json} (plain : PlainKeys value)
    (plainAbove : ∀ key ∈ above, IsPlainKey key) {name text : String} :
    (name,text) ∈ cells (dotted above) value ↔
      ∃ path, Leaf value path text ∧ leafName (above ++ path) = name := by
  induction value using Json.induction generalizing above with
  | null => exact iff_of_false List.not_mem_nil (by rintro ⟨path,leaf,-⟩; cases leaf)
  | bool value => exact mem_ownCell_iff plainAbove (.bool value)
  | number value => exact mem_ownCell_iff plainAbove (.number value)
  | string value => exact mem_ownCell_iff plainAbove (.string value)
  | array items => exact mem_ownCell_iff plainAbove (.array items)
  | object members ih =>
    cases plain with
    | object named each =>
      have below (member) (inside : member ∈ members) : (name,text) ∈
          cells (if dotted above = "" then member.1 else dotted above ++ "." ++ member.1) member.2 ↔
          ∃ path, Leaf member.2 path text ∧ leafName (above ++ member.1 :: path) = name := by
        have plainBelow : ∀ key ∈ above ++ [member.1], IsPlainKey key :=
          List.forall_mem_append.mpr ⟨plainAbove,List.forall_mem_singleton.mpr (named _ inside)⟩
        rw [ite_dotted_eq_dotted_concat plainAbove,ih member inside (each _ inside) plainBelow]
        simp only [List.append_assoc,List.singleton_append]
      rcases eq_or_ne members [] with rfl | filled
      · exact mem_ownCell_iff plainAbove .empty
      · rw [cells_object _ filled,memberCells_eq_flatMap,List.mem_flatMap]
        constructor
        · rintro ⟨member,inside,met⟩
          obtain ⟨path,leaf,named⟩ := (below member inside).mp met
          exact ⟨_,.member inside leaf,named⟩
        · rintro ⟨path,leaf,named⟩
          cases leaf with
          | empty => exact absurd rfl filled
          | member inside leaf => exact ⟨_,inside,(below _ inside).mpr ⟨_,leaf,named⟩⟩

end

/-! ### Tables -/

theorem mem_headersOf_iff {name : String} {rows : List (Entries String)} :
    name ∈ headersOf rows ↔ ∃ row ∈ rows, name ∈ row.keys := by
  simp [headersOf,Entries.mem_keys_ofList]

theorem headersOf_ascending (rows : List (Entries String)) :
    (headersOf rows).Pairwise (· < ·) :=
  List.pairwise_map.mpr (Entries.ascending_ofList _)

theorem mem_cells_element_iff {element : Json} (plain : PlainKeys element) {name text : String} :
    (name,text) ∈ cells "" element ↔ ∃ path, Leaf element path text ∧ leafName path = name := by
  change (name,text) ∈ cells (dotted []) element ↔ _
  exact mem_cells_iff plain (List.forall_mem_nil _)

theorem mem_keys_rowMap_iff {element : Json} (plain : PlainKeys element) {name : String} :
    name ∈ (rowMap element).keys ↔ ∃ path text, Leaf element path text ∧ leafName path = name := by
  simp only [rowMap,Entries.mem_keys_ofList,mem_cells_element_iff plain]
  exact exists_comm

theorem isCell_rowMap {element : Json} (wellFormed : element.WellFormed)
    (plain : PlainKeys element) (header : String) :
    IsCell element header (((rowMap element).find? header).getD "") := by
  by_cases named : ∃ path text, Leaf element path text ∧ leafName path = header
  · obtain ⟨path,text,leaf,rfl⟩ := named
    have only (other : List String) (text' : String) (leaf' : Leaf element other text')
        (same : leafName other = leafName path) : other = path ∧ text' = text := by
      obtain rfl := leaf'.path_unique plain leaf same
      exact ⟨rfl,leaf'.text_unique wellFormed leaf⟩
    have found : (rowMap element).find? (leafName path) = some text := by
      refine Entries.find?_ofList_of_unique ((mem_cells_element_iff plain).mpr ⟨path,leaf,rfl⟩) ?_
      intro text' met
      obtain ⟨other,leaf',same⟩ := (mem_cells_element_iff plain).mp met
      exact (only other text' leaf' same).2
    rw [found]
    exact .inl ⟨path,leaf,rfl,only⟩
  · have absent : (rowMap element).find? header = none :=
      Entries.find?_ofList_eq_none_iff.mpr fun text met =>
        have ⟨path,leaf⟩ := (mem_cells_element_iff plain).mp met
        named ⟨path,text,leaf⟩
    rw [absent]
    exact .inr ⟨rfl,fun path text leaf same => named ⟨path,text,leaf,same⟩⟩

theorem forall_mem_elements {value : Json} {p : Json → Prop} (whole : p value)
    (items : ∀ items, value = .array items → ∀ item ∈ items, p item) :
    ∀ element ∈ elements value, p element := by
  cases value with
  | array list => exact items list rfl
  | _ => simpa [elements] using whole

/-- The header is the names of all leaves in ascending order, and every element has a row with the
texts of its leaves below their names. -/
theorem flatten_leaves {value : Json} (wellFormed : value.WellFormed) (plain : PlainKeys value) :
    (flatten value).headers.Pairwise (· < ·) ∧
    (∀ name, name ∈ (flatten value).headers ↔
      ∃ element ∈ elements value, ∃ path text, Leaf element path text ∧ leafName path = name) ∧
    List.Forall₂ (fun element row => List.Forall₂ (IsCell element) (flatten value).headers row)
      (elements value) (flatten value).rows := by
  have wellFormed : ∀ element ∈ elements value, element.WellFormed :=
    forall_mem_elements wellFormed fun items same =>
      Json.wellFormed_array_iff.mp (same ▸ wellFormed)
  have plain : ∀ element ∈ elements value, PlainKeys element :=
    forall_mem_elements plain fun items same => by
      subst same
      cases plain with
      | array each => exact each
  refine ⟨headersOf_ascending _,fun name => ?_,?_⟩
  · simp only [flatten,mem_headersOf_iff,List.mem_map,exists_exists_and_eq_and]
    exact exists_congr fun element => and_congr_right fun member =>
      mem_keys_rowMap_iff (plain element member)
  · simp only [flatten,List.map_map]
    refine List.forall₂_map_right_iff.mpr (List.forall₂_same.mpr fun element member => ?_)
    refine List.forall₂_map_right_iff.mpr (List.forall₂_same.mpr fun header _ => ?_)
    exact isCell_rowMap (wellFormed element member) (plain element member) header

def shapes : Json :=
  .array [.object [("a",.object [("b",.bool true),("c",.array [.null])]),("e",.object [])],
    .string "x",.object [("value",.number .zero)],.null]

def shapesTable : Table :=
  ⟨["a.b","a.c","e","value"],
    [["true","[null]","\x7b\x7d",""],["","","","x"],["","","","0"],["","","",""]]⟩

theorem flatten_leaves_shapes : shapes.WellFormed ∧ PlainKeys shapes ∧
    flatten shapes = shapesTable ∧ List.Forall₂
      (fun element row => List.Forall₂ (IsCell element) shapesTable.headers row)
      (elements shapes) shapesTable.rows := by
  have wellFormed : shapes.WellFormed := by
    simp only [shapes,Json.WellFormed,Json.AllWellFormed,Json.MembersWellFormed,Entries.Ascending,
      List.pairwise_cons,List.forall_mem_cons,List.not_mem_nil,false_implies,implies_true,
      List.Pairwise.nil,and_true]
    decide +kernel
  have plain : PlainKeys shapes := by
    refine .array ?_
    simp only [List.forall_mem_cons,List.not_mem_nil,false_implies,implies_true,and_true]
    refine ⟨.object (by decide) ?_,.string _,.object (by decide) ?_,.null⟩
    · simp only [List.forall_mem_cons,List.not_mem_nil,false_implies,implies_true,and_true]
      refine ⟨.object (by decide) ?_,.object (by simp) (by simp)⟩
      simp only [List.forall_mem_cons,List.not_mem_nil,false_implies,implies_true,and_true]
      exact ⟨.bool _,.array (by simpa using .null)⟩
    · simpa using .number _
  have flat : flatten shapes = shapesTable := by decide +kernel
  obtain ⟨-,-,rows⟩ := flatten_leaves wellFormed plain
  rw [flat] at rows
  exact ⟨wellFormed,plain,flat,rows⟩

end Csv

end ViewTemplates
