/-! Finite maps keyed by text. A map lists its entries once each in ascending order of their
keys, so equal maps have equal listings and every listing the library prints is sorted. -/
namespace ViewTemplates

/-- Key-value pairs, the raw form of a map; operations keep an ascending listing ascending. -/
abbrev Entries (α : Type) := List (String × α)

namespace Entries

def Ascending (es : Entries α) : Prop := es.Pairwise (fun a b => a.1 < b.1)

def keys (es : Entries α) : List String := es.map (·.1)

def values (es : Entries α) : List α := es.map (·.2)

def find? (key : String) : Entries α → Option α
  | [] => none
  | (k,v) :: rest => if k = key then some v else find? key rest

/-- Binds `key`, replacing an earlier binding. -/
def insert (key : String) (value : α) : Entries α → Entries α
  | [] => [(key,value)]
  | (k,v) :: rest =>
    if key < k then (key,value) :: (k,v) :: rest
    else if key = k then (key,value) :: rest
    else (k,v) :: insert key value rest

def erase (key : String) : Entries α → Entries α
  | [] => []
  | (k,v) :: rest => if k = key then erase key rest else (k,v) :: erase key rest

/-- The map of a listing in any order; of two pairs with one key the later counts. -/
def ofList (pairs : List (String × α)) : Entries α :=
  pairs.foldl (fun es p => es.insert p.1 p.2) []

theorem mem_insert {key : String} {value : α} {es : Entries α} {p : String × α}
    (member : p ∈ es.insert key value) : p = (key,value) ∨ p ∈ es := by
  induction es with
  | nil => simpa [insert] using member
  | cons e rest ih =>
    obtain ⟨k,v⟩ := e
    simp only [insert] at member
    split at member
    · simpa using member
    · split at member
      · rcases List.mem_cons.mp member with h | h
        · exact .inl h
        · exact .inr (List.mem_cons_of_mem _ h)
      · rcases List.mem_cons.mp member with h | h
        · exact .inr (h ▸ List.mem_cons_self)
        · exact (ih h).imp id (List.mem_cons_of_mem _)

theorem mem_of_mem_ofList {pairs : List (String × α)} {p : String × α}
    (member : p ∈ ofList pairs) : p ∈ pairs := by
  suffices ∀ es : Entries α, p ∈ pairs.foldl (fun es p => es.insert p.1 p.2) es →
      p ∈ es ∨ p ∈ pairs by
    simpa using this [] member
  clear member
  induction pairs with
  | nil => exact fun es member => .inl member
  | cons q rest ih =>
    intro es member
    rcases ih _ member with inserted | later
    · rcases mem_insert inserted with rfl | old
      · exact .inr List.mem_cons_self
      · exact .inl old
    · exact .inr (List.mem_cons_of_mem _ later)

theorem ascending_insert {es : Entries α} (ascending : es.Ascending) (key : String) (value : α) :
    (es.insert key value).Ascending := by
  induction es with
  | nil => simp [insert,Ascending]
  | cons e rest ih =>
    obtain ⟨k,v⟩ := e
    obtain ⟨head,tail⟩ := List.pairwise_cons.mp ascending
    simp only [insert]
    split
    next below =>
      refine List.pairwise_cons.mpr ⟨fun p member => ?_,ascending⟩
      rcases List.mem_cons.mp member with rfl | h
      · exact below
      · exact String.lt_trans below (head p h)
    next notBelow =>
      split
      next same => exact List.pairwise_cons.mpr ⟨fun p member => same ▸ head p member,tail⟩
      next differs =>
        refine List.pairwise_cons.mpr ⟨fun p member => ?_,ih tail⟩
        rcases mem_insert member with rfl | h
        · have le : k ≤ key := String.not_lt.mp notBelow
          exact String.not_le.mp fun ge => differs (String.le_antisymm ge le)
        · exact head p h

theorem mem_of_mem_erase {key : String} {es : Entries α} {p : String × α}
    (member : p ∈ es.erase key) : p ∈ es := by
  induction es with
  | nil => simp [erase] at member
  | cons e rest ih =>
    obtain ⟨k,v⟩ := e
    simp only [erase] at member
    split at member
    · exact List.mem_cons_of_mem _ (ih member)
    · rcases List.mem_cons.mp member with h | h
      · exact h ▸ List.mem_cons_self
      · exact List.mem_cons_of_mem _ (ih h)

theorem ascending_erase {es : Entries α} (ascending : es.Ascending) (key : String) :
    (es.erase key).Ascending := by
  induction es with
  | nil => simp [erase,Ascending]
  | cons e rest ih =>
    obtain ⟨k,v⟩ := e
    obtain ⟨head,tail⟩ := List.pairwise_cons.mp ascending
    simp only [erase]
    split
    · exact ih tail
    · exact List.pairwise_cons.mpr ⟨fun p member => head p (mem_of_mem_erase member),ih tail⟩

theorem ascending_map {es : Entries α} (ascending : es.Ascending) (f : α → β) :
    Ascending (List.map (fun e => (e.1,f e.2)) es) :=
  List.pairwise_map.mpr ascending

theorem ascending_ofList (pairs : List (String × α)) : (ofList pairs).Ascending := by
  suffices ∀ es : Entries α, es.Ascending →
      (pairs.foldl (fun es p => es.insert p.1 p.2) es).Ascending from this [] .nil
  induction pairs with
  | nil => intro es h; exact h
  | cons p rest ih => intro es h; exact ih _ (ascending_insert h p.1 p.2)

theorem find?_insert (es : Entries α) (key other : String) (value : α) :
    (es.insert key value).find? other = if other = key then some value else es.find? other := by
  induction es with
  | nil => simp [insert,find?,eq_comm]
  | cons e rest ih =>
    obtain ⟨k,v⟩ := e
    simp only [insert]
    split
    · simp only [find?]; grind
    · split <;> simp only [find?] <;> grind

theorem mem_of_find? {key : String} {value : α} {es : Entries α}
    (found : es.find? key = some value) : (key,value) ∈ es := by
  induction es with
  | nil => simp [find?] at found
  | cons e rest ih =>
    obtain ⟨k,v⟩ := e
    simp only [find?] at found
    split at found
    next same => simp_all
    next => exact List.mem_cons_of_mem _ (ih found)

theorem find?_of_mem {key : String} {value : α} {es : Entries α} (ascending : es.Ascending)
    (member : (key,value) ∈ es) : es.find? key = some value := by
  induction es with
  | nil => simp at member
  | cons e rest ih =>
    obtain ⟨k,v⟩ := e
    obtain ⟨head,tail⟩ := List.pairwise_cons.mp ascending
    simp only [find?]
    rcases List.mem_cons.mp member with same | later
    · simp_all
    · have below := head _ later
      have differs : k ≠ key := fun same => String.lt_irrefl key (same ▸ below)
      simp [differs,ih tail later]

theorem mem_keys_iff {key : String} {es : Entries α} :
    key ∈ es.keys ↔ (es.find? key).isSome = true := by
  induction es with
  | nil => simp [keys,find?]
  | cons e rest ih =>
    obtain ⟨k,v⟩ := e
    simp only [keys,find?,List.map_cons,List.mem_cons] at ih ⊢
    split
    next same => simp [same]
    next differs => rw [ih]; simp [Ne.symm differs]

@[simp] theorem mem_keys_insert {es : Entries α} {key other : String} {value : α} :
    other ∈ (es.insert key value).keys ↔ other = key ∨ other ∈ es.keys := by
  rw [mem_keys_iff,find?_insert,mem_keys_iff]
  split
  next same => simp [same]
  next differs => simp [differs]

theorem mem_keys_ofList {pairs : List (String × α)} {key : String} :
    key ∈ (ofList pairs).keys ↔ ∃ value, (key,value) ∈ pairs := by
  suffices ∀ es : Entries α, key ∈ (pairs.foldl (fun es p => es.insert p.1 p.2) es).keys ↔
      key ∈ es.keys ∨ ∃ value, (key,value) ∈ pairs by
    simpa [ofList,keys] using this []
  induction pairs with
  | nil => simp
  | cons p rest ih =>
    intro es
    obtain ⟨k,v⟩ := p
    simp only [List.foldl_cons,ih,mem_keys_insert,List.mem_cons,Prod.mk.injEq]
    grind

theorem nodup_keys {es : Entries α} (ascending : es.Ascending) : es.keys.Nodup := by
  refine List.pairwise_map.mpr (List.Pairwise.imp (fun {a b} below same => ?_) ascending)
  rw [same] at below
  exact String.lt_irrefl b.1 below

/-- Ascending listings of the same entries are the same. -/
theorem eq_of_mem_iff {es fs : Entries α} (left : es.Ascending) (right : fs.Ascending)
    (same : ∀ p, p ∈ es ↔ p ∈ fs) : es = fs := by
  induction es generalizing fs with
  | nil => exact (List.eq_nil_iff_forall_not_mem.mpr fun p h => by simpa using (same p).mpr h).symm
  | cons e es ih =>
    cases fs with
    | nil => simpa using (same e).mp List.mem_cons_self
    | cons f fs =>
      obtain ⟨below,tailLeft⟩ := List.pairwise_cons.mp left
      obtain ⟨above,tailRight⟩ := List.pairwise_cons.mp right
      have first : e = f := by
        rcases List.mem_cons.mp ((same e).mp List.mem_cons_self) with eq | inRight
        · exact eq
        · rcases List.mem_cons.mp ((same f).mpr List.mem_cons_self) with eq | inLeft
          · exact eq.symm
          · exact absurd (String.lt_trans (below _ inLeft) (above _ inRight)) (String.lt_irrefl _)
      subst first
      refine congrArg (e :: ·) (ih tailLeft tailRight fun p => ⟨fun member => ?_,fun member => ?_⟩)
      · rcases List.mem_cons.mp ((same p).mp (List.mem_cons_of_mem _ member)) with eq | h
        · exact absurd (eq ▸ below _ member) (String.lt_irrefl _)
        · exact h
      · rcases List.mem_cons.mp ((same p).mpr (List.mem_cons_of_mem _ member)) with eq | h
        · exact absurd (eq ▸ above _ member) (String.lt_irrefl _)
        · exact h

/-- A listing is what its look-ups answer. -/
theorem eq_of_find?_eq {es fs : Entries α} (left : es.Ascending) (right : fs.Ascending)
    (same : ∀ key, es.find? key = fs.find? key) : es = fs :=
  eq_of_mem_iff left right fun p =>
    ⟨fun member => mem_of_find? ((same p.1).symm.trans (find?_of_mem left member)),
      fun member => mem_of_find? ((same p.1).trans (find?_of_mem right member))⟩

/-- A key that is paired with one value only has this value, however often the pair occurs. -/
theorem find?_ofList_of_unique {pairs : List (String × α)} {key : String} {value : α}
    (member : (key,value) ∈ pairs) (only : ∀ other, (key,other) ∈ pairs → other = value) :
    (ofList pairs).find? key = some value := by
  obtain ⟨found,kept⟩ := Option.isSome_iff_exists.mp
    (mem_keys_iff.mp (mem_keys_ofList.mpr ⟨value,member⟩))
  rw [kept,only found (mem_of_mem_ofList (mem_of_find? kept))]

theorem find?_ofList_eq_none_iff {pairs : List (String × α)} {key : String} :
    (ofList pairs).find? key = none ↔ ∀ value, (key,value) ∉ pairs := by
  rw [← not_exists,← mem_keys_ofList,mem_keys_iff,Option.not_isSome_iff_eq_none]

/-- What is listed in ascending order already is its own map. -/
theorem ofList_of_ascending {es : Entries α} (ascending : es.Ascending) : ofList es = es := by
  refine eq_of_mem_iff (ascending_ofList es) ascending fun p => ⟨mem_of_mem_ofList,fun member => ?_⟩
  refine mem_of_find? (find?_ofList_of_unique member fun other pair => ?_)
  exact Option.some.inj ((find?_of_mem ascending pair).symm.trans (find?_of_mem ascending member))

theorem find?_erase (es : Entries α) (key other : String) :
    (es.erase key).find? other = if other = key then none else es.find? other := by
  induction es with
  | nil => simp [erase,find?]
  | cons e rest ih =>
    obtain ⟨k,v⟩ := e
    simp only [erase,find?]
    split
    · rw [ih]; grind
    · simp only [find?]; grind

end Entries

/-- A finite map from text to `α`, given by its ascending listing. -/
structure KeyMap (α : Type) where
  entries : Entries α
  ascending : entries.Ascending

namespace KeyMap

def empty : KeyMap α := ⟨[],.nil⟩

instance : Inhabited (KeyMap α) := ⟨empty⟩

def find? (map : KeyMap α) (key : String) : Option α := map.entries.find? key

def contains (map : KeyMap α) (key : String) : Bool := (map.find? key).isSome

def insert (map : KeyMap α) (key : String) (value : α) : KeyMap α :=
  ⟨map.entries.insert key value,Entries.ascending_insert map.ascending key value⟩

def erase (map : KeyMap α) (key : String) : KeyMap α :=
  ⟨map.entries.erase key,Entries.ascending_erase map.ascending key⟩

def ofList (pairs : List (String × α)) : KeyMap α :=
  ⟨Entries.ofList pairs,Entries.ascending_ofList pairs⟩

/-- The same keys with other values. -/
def map (f : α → β) (values : KeyMap α) : KeyMap β :=
  ⟨values.entries.map fun e => (e.1,f e.2),Entries.ascending_map values.ascending f⟩

def keys (map : KeyMap α) : List String := map.entries.keys

def isEmpty (map : KeyMap α) : Bool := map.entries.isEmpty

/-- Maps with the same look-ups are the same. -/
theorem eq_of_find?_eq {left right : KeyMap α} (same : ∀ key, left.find? key = right.find? key) :
    left = right := by
  cases left; cases right
  simp only [mk.injEq]
  exact Entries.eq_of_find?_eq ‹_› ‹_› same

theorem mem_keys_iff {map : KeyMap α} {key : String} :
    key ∈ map.keys ↔ map.contains key = true := Entries.mem_keys_iff

theorem keys_ascending (map : KeyMap α) : map.keys.Pairwise (· < ·) :=
  List.pairwise_map.mpr map.ascending

@[simp] theorem find?_empty (key : String) : (empty : KeyMap α).find? key = none := rfl

@[simp] theorem find?_map (f : α → β) (values : KeyMap α) (key : String) :
    (values.map f).find? key = (values.find? key).map f := by
  obtain ⟨entries,_⟩ := values
  simp only [find?,map]
  induction entries with
  | nil => rfl
  | cons e rest ih =>
    obtain ⟨k,v⟩ := e
    simp only [List.map_cons,Entries.find?]
    split
    · rfl
    · exact ih (List.pairwise_cons.mp ‹_›).2

theorem keys_map (f : α → β) (values : KeyMap α) : (values.map f).keys = values.keys := by
  simp [keys,map,Entries.keys]

@[simp] theorem find?_insert (map : KeyMap α) (key other : String) (value : α) :
    (map.insert key value).find? other = if other = key then some value else map.find? other :=
  Entries.find?_insert map.entries key other value

@[simp] theorem find?_erase (map : KeyMap α) (key other : String) :
    (map.erase key).find? other = if other = key then none else map.find? other :=
  Entries.find?_erase map.entries key other

end KeyMap

end ViewTemplates
