import ViewTemplates.Xml

/-! The names in XML documents. What a key is made into can be the name of an element, so every
value, whatever its keys are, has a document. -/
namespace ViewTemplates.Xml

/-- The letters of ASCII and the underscore. -/
def StartsName (c : Char) : Prop := ('A' ≤ c ∧ c ≤ 'Z') ∨ ('a' ≤ c ∧ c ≤ 'z') ∨ c = '_'

instance (c : Char) : Decidable (StartsName c) := inferInstanceAs (Decidable (_ ∨ _))

/-- These, the digits, the dot and the hyphen. -/
def ContinuesName (c : Char) : Prop := StartsName c ∨ ('0' ≤ c ∧ c ≤ '9') ∨ c = '.' ∨ c = '-'

instance (c : Char) : Decidable (ContinuesName c) := inferInstanceAs (Decidable (_ ∨ _))

/-- The names that keys are made into. -/
def IsPlainName : List Char → Prop
  | [] => False
  | c :: rest => StartsName c ∧ ∀ d ∈ rest, ContinuesName d

theorem isNameStart_iff {c : Char} : isNameStart c = true ↔ StartsName c := by
  simp [isNameStart,StartsName,Text.isAsciiUpper,Text.isAsciiLower,or_assoc]

theorem isNameChar_iff {c : Char} : isNameChar c = true ↔ ContinuesName c := by
  simp only [isNameChar,ContinuesName,StartsName,Text.isAsciiAlphanumeric,Text.isAsciiUpper,
    Text.isAsciiLower,Text.isAsciiDigit,Bool.or_eq_true,Bool.and_eq_true,decide_eq_true_eq,
    beq_iff_eq]
  grind

/-- What is not allowed in a name is replaced by what is. -/
theorem continuesName_of_mem_replaced {s : List Char} {c : Char}
    (member : c ∈ s.map fun c => if isNameChar c then c else '_') : ContinuesName c := by
  obtain ⟨original,-,rfl⟩ := List.mem_map.mp member
  split
  next allowed => exact isNameChar_iff.mp allowed
  next => exact .inl (.inr (.inr rfl))

theorem isPlainName_elementName (key : List Char) : IsPlainName (elementName key) := by
  have underscore : StartsName '_' := .inr (.inr rfl)
  cases key with
  | nil => exact ⟨underscore,by simp⟩
  | cons c rest =>
    simp only [elementName]
    split
    next starts => exact ⟨isNameStart_iff.mp starts,fun d => continuesName_of_mem_replaced⟩
    next =>
      split
      next digit =>
        have second : ContinuesName c := isNameChar_iff.mp (by simp [isNameChar,digit])
        refine ⟨underscore,fun d member => ?_⟩
        rcases List.mem_cons.mp member with rfl | later
        · exact second
        · exact continuesName_of_mem_replaced later
      next => exact ⟨underscore,fun d => continuesName_of_mem_replaced⟩

/-- Documents allow more characters in names. -/
theorem isName_of_isPlainName {name : List Char} (plain : IsPlainName name) :
    isName name = true := by
  cases name with
  | nil => exact plain.elim
  | cons c rest =>
    obtain ⟨first,later⟩ := plain
    have starts := isNameStart_iff.mpr first
    have follows : rest.all mayFollow = true := List.all_eq_true.mpr fun d member => by
      simp [mayFollow,isNameChar_iff.mpr (later d member)]
    simp [isName,mayStart,starts,follows]

theorem mem_memberNames_iff {name : String} {members : List (String × Json)} :
    name ∈ memberNames members ↔
      ∃ key value, (key,value) ∈ members ∧ (name = key ∨ name ∈ names value) := by
  induction members with
  | nil => simp [memberNames]
  | cons member rest ih =>
    obtain ⟨key,value⟩ := member
    simp only [memberNames,List.cons_append,List.mem_cons,List.mem_append,ih,Prod.mk.injEq]
    constructor
    · rintro (here | inside | ⟨key,value,later,named⟩)
      · exact ⟨key,value,.inl ⟨rfl,rfl⟩,.inl here⟩
      · exact ⟨key,value,.inl ⟨rfl,rfl⟩,.inr inside⟩
      · exact ⟨key,value,.inr later,named⟩
    · rintro ⟨key,value,⟨rfl,rfl⟩ | later,named⟩
      · exact named.imp id .inl
      · exact .inr (.inr ⟨key,value,later,named⟩)

/-- Members that are dropped for later ones of their key take names away, and add none. -/
theorem memberNames_ofList_subset (members : List (String × Json)) :
    memberNames (Entries.ofList members) ⊆ memberNames members := by
  intro name member
  obtain ⟨key,value,kept,named⟩ := mem_memberNames_iff.mp member
  exact mem_memberNames_iff.mpr ⟨key,value,Entries.mem_of_mem_ofList kept,named⟩

mutual

theorem isName_of_mem_names (value : Json) :
    ∀ name ∈ names (sanitized value), isName name.toList = true := by
  cases value with
  | array items =>
    simpa only [sanitized,names] using isName_of_mem_itemNames items
  | object members =>
    intro name member
    simp only [sanitized,Json.ofMembers,names] at member
    exact isName_of_mem_memberNames members name (memberNames_ofList_subset _ member)
  | _ => simp [sanitized,names]

theorem isName_of_mem_itemNames (items : List Json) :
    ∀ name ∈ itemNames (sanitizedItems items), isName name.toList = true := by
  cases items with
  | nil => simp [sanitizedItems,itemNames]
  | cons item rest =>
    intro name member
    simp only [sanitizedItems,itemNames,List.mem_append] at member
    rcases member with here | later
    · exact isName_of_mem_names item name here
    · exact isName_of_mem_itemNames rest name later

theorem isName_of_mem_memberNames (members : List (String × Json)) :
    ∀ name ∈ memberNames (sanitizedMembers members), isName name.toList = true := by
  cases members with
  | nil => simp [sanitizedMembers,memberNames]
  | cons member rest =>
    obtain ⟨key,value⟩ := member
    intro name member
    simp only [sanitizedMembers,memberNames,List.cons_append,List.mem_cons,List.mem_append]
      at member
    rcases member with rfl | inside | later
    · rw [String.toList_ofList]
      exact isName_of_isPlainName (isPlainName_elementName key.toList)
    · exact isName_of_mem_names value name inside
    · exact isName_of_mem_memberNames rest name later

end

/-- The document has the names of the value, and `value` above them where that is no object. -/
theorem isName_of_mem_documentMembers (value : Json) :
    ∀ name ∈ memberNames (documentMembers (sanitized value)), isName name.toList = true := by
  have inside := isName_of_mem_names value
  generalize sanitized value = value at inside
  cases value with
  | null => simp [documentMembers,memberNames]
  | object members => exact inside
  | _ =>
    intro name member
    simp only [documentMembers,memberNames,List.append_nil,List.mem_cons] at member
    rcases member with rfl | deeper
    · decide
    · exact inside name deeper

theorem write_eq_ok (value : Json) :
    write value =
      .ok (element ['d','a','t','a'] (memberElements (documentMembers (sanitized value)))) := by
  have named := isName_of_mem_documentMembers value
  have noFault : (memberNames (documentMembers (sanitized value))).find?
      (fun name => !isName name.toList) = none := by
    simpa using named
  simp only [write,noFault]

end ViewTemplates.Xml
