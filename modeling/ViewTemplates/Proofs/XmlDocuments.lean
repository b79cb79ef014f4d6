import ViewTemplates.Output.Encoder
import ViewTemplates.Proofs.XmlMembers

/-! The form of XML documents. The grammar has elements without attributes, whose names are those
that keys are made into, and text whose special characters stand as entities. Whatever a value is,
its document is one element of this grammar. -/
namespace ViewTemplates.Xml

/-- The entities that need no declaration. -/
def entityNames : List String := ["lt","gt","amp","quot","apos"]

/-- Text between tags: no tag begins in it, and every ampersand begins an entity. -/
inductive IsText : List Char → Prop
  | nil : IsText []
  | char {c : Char} {s : List Char} : c ≠ '<' → c ≠ '&' → IsText s → IsText (c :: s)
  | entity (name : String) {s : List Char} :
      name ∈ entityNames → IsText s → IsText ('&' :: name.toList ++ ';' :: s)

mutual

/-- One element of a name: an empty-element tag, or a start tag, content, and the end tag of the
same name. -/
inductive IsElement : List Char → List Char → Prop
  | empty {name : List Char} : IsPlainName name → IsElement name ('<' :: name ++ ['/','>'])
  | closed {name s : List Char} : IsPlainName name → IsContent s →
      IsElement name ('<' :: name ++ '>' :: s ++ '<' :: '/' :: name ++ ['>'])

/-- Text, with elements in between. -/
inductive IsContent : List Char → Prop
  | text {s : List Char} : IsText s → IsContent s
  | element {s name t rest : List Char} :
      IsText s → IsElement name t → IsContent rest → IsContent (s ++ t ++ rest)

end

/-! ### Text -/

theorem isText_of_plain {s : List Char} (plain : ∀ c ∈ s, c ≠ '<' ∧ c ≠ '&') : IsText s := by
  induction s with
  | nil => exact .nil
  | cons c s ih =>
    obtain ⟨⟨notOpen,notAnd⟩,later⟩ := List.forall_mem_cons.mp plain
    exact .char notOpen notAnd (ih later)

theorem IsText.escape_append {s : List Char} (text : IsText s) (c : Char) :
    IsText (escape c ++ s) := by
  unfold escape
  split
  next => exact .entity "lt" (by decide) text
  next notOpen =>
    split
    next => exact .entity "gt" (by decide) text
    next =>
      split
      next => exact .entity "amp" (by decide) text
      next notAnd => exact .char notOpen notAnd text

theorem isText_escaped (s : List Char) : IsText (s.flatMap escape) := by
  induction s with
  | nil => exact .nil
  | cons c s ih => exact ih.escape_append c

theorem isText_numberText (value : Number) : IsText (numberText value) := by
  refine isText_of_plain fun c member => ?_
  have mark (mark : FloatLayout.IsMark c) : c ≠ '<' ∧ c ≠ '&' :=
    ⟨fun same => absurd (same ▸ mark : FloatLayout.IsMark '<') (by decide),
      fun same => absurd (same ▸ mark : FloatLayout.IsMark '&') (by decide)⟩
  cases value with
  | int value _ =>
    simp only [numberText,integerText] at member
    split at member
    · rcases List.mem_cons.mp member with rfl | digits
      · decide
      · exact mark (FloatLayout.isMark_of_mem_toDigits digits)
    · exact mark (FloatLayout.isMark_of_mem_toDigits member)
  | float value _ =>
    rcases FloatLayout.of_mem_text member with decimal | name | name
    · exact mark decimal
    · have known : ∀ c ∈ FloatLayout.plain.nan.toList, c ≠ '<' ∧ c ≠ '&' := by
        simp [FloatLayout.plain]
      exact known c name
    · have known : ∀ c ∈ FloatLayout.plain.infinity.toList, c ≠ '<' ∧ c ≠ '&' := by
        simp [FloatLayout.plain]
      exact known c name

theorem isText_of_content? {value : Json} {s : List Char} (whole : content? value = some s) :
    IsText s := by
  cases value with
  | null =>
    obtain rfl := Option.some.inj whole
    exact .nil
  | bool value =>
    obtain rfl := Option.some.inj whole
    cases value <;> exact isText_of_plain (by simp)
  | number value =>
    obtain rfl := Option.some.inj whole
    exact isText_numberText value
  | string value =>
    obtain rfl := Option.some.inj whole
    exact isText_escaped value.toList
  | _ => simp [content?] at whole

/-! ### Elements -/

/-- Elements one after the other. -/
def IsSequence (s : List Char) : Prop :=
  ∃ parts : List (List Char), s = parts.flatten ∧ ∀ part ∈ parts, ∃ name, IsElement name part

theorem IsElement.isSequence {name s : List Char} (element : IsElement name s) : IsSequence s :=
  ⟨[s],by simp,by simpa using ⟨name,element⟩⟩

theorem isSequence_flatten {parts : List (List Char)} (each : ∀ part ∈ parts, IsSequence part) :
    IsSequence parts.flatten := by
  induction parts with
  | nil => exact ⟨[],rfl,by simp⟩
  | cons part parts ih =>
    obtain ⟨here,later⟩ := List.forall_mem_cons.mp each
    obtain ⟨front,rfl,frontElements⟩ := here
    obtain ⟨back,joined,backElements⟩ := ih later
    refine ⟨front ++ back,by rw [List.flatten_cons,joined,List.flatten_append],?_⟩
    exact List.forall_mem_append.mpr ⟨frontElements,backElements⟩

theorem IsSequence.isContent {s : List Char} (sequence : IsSequence s) : IsContent s := by
  obtain ⟨parts,rfl,each⟩ := sequence
  induction parts with
  | nil => exact .text .nil
  | cons part parts ih =>
    obtain ⟨⟨name,first⟩,later⟩ := List.forall_mem_cons.mp each
    exact .element .nil first (ih later)

theorem isElement_element {name s : List Char} (named : IsPlainName name) (content : IsContent s) :
    IsElement name (element name s) := by
  unfold element
  split
  next => exact .empty named
  next => exact .closed named content

theorem isSequence_memberElements {members : List (String × Json)}
    (each : ∀ member ∈ members, IsSequence (elements member.1.toList member.2)) :
    IsSequence (memberElements members) := by
  rw [memberElements_eq_flatten]
  refine isSequence_flatten fun part inParts => ?_
  obtain ⟨member,inMembers,rfl⟩ := List.mem_map.mp inParts
  exact each member inMembers

/-- What is kept of an object are members of it, with their names and values. -/
theorem exists_of_mem_kept {members : List (String × Json)} {kept : String × Json}
    (member : kept ∈ Entries.ofList (sanitizedMembers members)) :
    ∃ original ∈ members, kept = (nameOf original.1,sanitized original.2) := by
  have inMembers := Entries.mem_of_mem_ofList member
  rw [sanitizedMembers_eq_map] at inMembers
  obtain ⟨original,inOriginals,rfl⟩ := List.mem_map.mp inMembers
  exact ⟨original,inOriginals,rfl⟩

theorem isPlainName_nameOf (key : String) : IsPlainName (nameOf key).toList := by
  rw [nameOf,String.toList_ofList]
  exact isPlainName_elementName key.toList

theorem isSequence_leaf {name s : List Char} (named : IsPlainName name) (value : Json)
    (whole : content? value = some s) : IsSequence (element name s) :=
  (isElement_element named (.text (isText_of_content? whole))).isSequence

/-- A value writes elements under every name, an array any number of them. -/
theorem isSequence_elements (value : Json) {name : List Char} (named : IsPlainName name) :
    IsSequence (elements name (sanitized value)) := by
  induction value using Json.induction generalizing name with
  | null => exact isSequence_leaf named .null rfl
  | bool value =>
    cases value with
    | false => exact isSequence_leaf named (.bool false) rfl
    | true => exact isSequence_leaf named (.bool true) rfl
  | number value => exact isSequence_leaf named (.number value) rfl
  | string value => exact isSequence_leaf named (.string value) rfl
  | array items ih =>
    rw [sanitized,elements,itemElements_eq_flatten,sanitizedItems_eq_map,List.map_map]
    refine isSequence_flatten fun part inParts => ?_
    obtain ⟨item,inItems,rfl⟩ := List.mem_map.mp inParts
    exact ih item inItems named
  | object members ih =>
    rw [sanitized,Json.ofMembers,elements]
    have inside : IsSequence (memberElements (Entries.ofList (sanitizedMembers members))) :=
      isSequence_memberElements fun kept member => by
        obtain ⟨original,inMembers,rfl⟩ := exists_of_mem_kept member
        exact ih original inMembers (isPlainName_nameOf original.1)
    exact (isElement_element named inside.isContent).isSequence

/-- What stands in the document of a value. -/
theorem isSequence_documentMembers (value : Json) :
    IsSequence (memberElements (documentMembers (sanitized value))) := by
  refine isSequence_memberElements fun member inside => ?_
  have alone : member = ("value",sanitized value) →
      IsSequence (elements member.1.toList member.2) := by
    rintro rfl
    have named : IsPlainName "value".toList := by
      simp [IsPlainName,StartsName,ContinuesName]
    exact isSequence_elements value named
  cases value with
  | null => contradiction
  | object members =>
    obtain ⟨original,-,rfl⟩ := exists_of_mem_kept inside
    exact isSequence_elements original.2 (isPlainName_nameOf original.1)
  | _ => exact alone (List.mem_singleton.mp inside)

/-- Every value has a document, and it is one element `data`. -/
theorem isElement_document (value : Json) :
    ∃ text, write value = .ok text ∧
      EncoderKind.xml.encode (.data value) = .ok (Utf8.encode text) ∧
      IsElement "data".toList text := by
  have content := (isSequence_documentMembers value).isContent
  have named : IsPlainName "data".toList := by simp [IsPlainName,StartsName,ContinuesName]
  refine ⟨_,write_eq_ok value,?_,isElement_element named content⟩
  simp [EncoderKind.encode,EncoderKind.write,write_eq_ok,Except.map,Except.mapError]

end ViewTemplates.Xml
