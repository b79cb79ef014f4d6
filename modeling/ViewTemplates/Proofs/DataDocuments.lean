import ViewTemplates.Proofs.FilledText
import ViewTemplates.Proofs.Placeholders

/-! Data templates against what they stand for. A string of a document has the value of its
placeholder if it is one and nothing else, and otherwise the text that a template of plain text has.
A compiled document has the data that is found by walking through the document itself; and every
document is the data of some template, that in which its braces are doubled. -/
namespace ViewTemplates

namespace DataTemplate

variable {a : Assigns} {s : String} {path raw : List Char}

theorem renderAll_of_literals {segments : List Segment}
    (literals : segments.any Segment.isPlaceholder = false) (escape : Bool) (a : Assigns) :
    Segment.renderAll escape a segments = literalText segments := by
  induction segments with
  | nil => rfl
  | cons segment rest ih =>
    simp only [List.any_cons,Bool.or_eq_false_iff] at literals
    obtain ⟨here,later⟩ := literals
    cases segment with
    | literal text =>
      rw [literalText_cons,← ih later]
      simp [Segment.renderAll,Segment.render,literalText]
    | placeholder => contradiction

theorem render_ofString_of_placeholder
    (read : Segment.parseLenient s.toList = [.placeholder path raw]) (a : Assigns) :
    (ofString s).render a = ((a.resolve? path).map Resolved.toJson).getD .null := by
  rw [ofString,read,render]

theorem render_ofString_of_text
    (read : ∀ path raw, Segment.parseLenient s.toList ≠ [.placeholder path raw]) (a : Assigns) :
    (ofString s).render a =
      .string (String.ofList (Segment.renderAll false a (Segment.parseLenient s.toList))) := by
  unfold ofString
  split
  next path raw same => exact absurd same (read path raw)
  next =>
    split
    next => rw [render]
    next literals => rw [render,renderAll_of_literals (by simpa using literals)]

/-- A string that is text for a plain template is the same text as data, unless it is a single
placeholder: then the data is what the placeholder leads to, or nothing. -/
theorem leaf_agrees_with_text {name : String} {template : Template}
    (plain : ∀ format ∈ ["html","htm","xml"], Naming.format? name ≠ some format)
    (compiled : Engine.simple.compile name s = .ok template) (a : Assigns) :
    ∃ text, template.render a = .ok (.safe text) ∧
      ((∀ raw, ¬Segment.IsSole s.toList raw) → (ofJson (.string s)).render a = .string text) ∧
      ∀ raw, Segment.IsSole s.toList raw →
        (∀ content, a.resolve? (Text.trim raw) = some (.safe content) →
          a.innerContent = some (.safe content) ∧
            (ofJson (.string s)).render a = .string content ∧
            Segment.valueText (.string content) = text.toList) ∧
        (∀ value, a.resolve? (Text.trim raw) = some (.value value) →
          (ofJson (.string s)).render a = value ∧ Segment.valueText value = text.toList) ∧
        (a.resolve? (Text.trim raw) = none →
          (ofJson (.string s)).render a = .null ∧ text = s) := by
  obtain ⟨segments,strict,rfl⟩ := Engine.compile_simple_eq_ok_iff.mp compiled
  have read := Segment.parseLenient_of_parse strict
  have unescaped : Naming.isMarkup name = false := by
    by_contra markup
    obtain ⟨format,member,named⟩ := Naming.isMarkup_iff.mp (by simpa using markup)
    exact plain format member named
  rw [unescaped]
  refine ⟨_,rfl,fun unsole => ?_,fun raw sole => ?_⟩
  · rw [ofJson,render_ofString_of_text _ a,read]
    intro path raw same
    rw [same] at read
    rw [← read] at strict
    exact unsole raw (Segment.parseFrom_eq_placeholder_iff.mp strict).1
  · obtain rfl : segments = [.placeholder (Text.trim raw) raw] :=
      Except.ok.inj (strict.symm.trans (Segment.parseFrom_eq_placeholder_iff.mpr ⟨sole,rfl⟩))
    rw [ofJson,render_ofString_of_placeholder read]
    refine ⟨fun content leads => ?_,fun value leads => ?_,fun nowhere => ?_⟩
    · refine ⟨(Assigns.resolve?_eq_safe_iff.mp leads).2,by simp [leads,Resolved.toJson],?_⟩
      simp [Segment.renderAll,Segment.render,Segment.valueText,leads]
    · simp [Segment.renderAll,Segment.render,leads,Resolved.toJson]
    · refine ⟨by simp [nowhere],?_⟩
      have whole : Segment.renderAll false a [.placeholder (Text.trim raw) raw] = s.toList := by
        simp [Segment.renderAll,Segment.render,nowhere,sole.whole]
      rw [whole,String.ofList_toList]

/-- A list keeps its type as data and is JSON text in a text. -/
theorem leaf_agrees_with_text_list :
    Naming.format? "row.txt" = some "txt" ∧
    Engine.simple.compile "row.txt" "\x7b tags \x7d" =
      .ok (.simple false [.placeholder "tags".toList " tags ".toList]) ∧
    Segment.IsSole "\x7b tags \x7d".toList " tags ".toList ∧
    (ofJson (.string "\x7b tags \x7d")).render (.ofList [("tags",.array [.string "a"])]) =
      .array [.string "a"] ∧
    (Template.simple false [.placeholder "tags".toList " tags ".toList]).render
      (.ofList [("tags",.array [.string "a"])]) = .ok (.safe "[\"a\"]") := by
  have format : Naming.format? "row.txt" = some "txt" := by decide +kernel
  have plain : ∀ format ∈ ["html","htm","xml"], Naming.format? "row.txt" ≠ some format := by
    rw [format]
    decide
  have unescaped : Naming.isMarkup "row.txt" = false := by decide +kernel
  have parsed : Segment.parse "\x7b tags \x7d".toList =
      .ok [.placeholder "tags".toList " tags ".toList] := by cbv
  have compiled : Engine.simple.compile "row.txt" "\x7b tags \x7d" =
      .ok (.simple false [.placeholder "tags".toList " tags ".toList]) :=
    Engine.compile_simple_eq_ok_iff.mpr ⟨_,parsed,by rw [unescaped]⟩
  have sole := (Segment.parseFrom_eq_placeholder_iff.mp parsed).1
  have leads : (Assigns.ofList [("tags",.array [.string "a"])]).resolve?
      (Text.trim " tags ".toList) = some (.value (.array [.string "a"])) := rfl
  obtain ⟨text,rendered,-,single⟩ := leaf_agrees_with_text plain compiled
    (.ofList [("tags",.array [.string "a"])])
  obtain ⟨-,values,-⟩ := single _ sole
  obtain ⟨kept,written⟩ := values _ leads
  have spelled : text = "[\"a\"]" := by
    rw [← String.toList_inj,← written]
    decide
  exact ⟨format,compiled,sole,kept,spelled ▸ rendered⟩

/-- The data of a string of a document: what its placeholder leads to if it is one, and otherwise
its text. Values are put in as they are; what they hold is not read as a template again. -/
inductive LeafData (a : Assigns) (s : String) : Json → Prop
  | found {path raw : List Char} {resolved : Resolved}
      (read : Segment.parseLenient s.toList = [.placeholder path raw])
      (leads : a.resolve? path = some resolved) : LeafData a s resolved.toJson
  | nothing {path raw : List Char}
      (read : Segment.parseLenient s.toList = [.placeholder path raw])
      (nowhere : a.resolve? path = none) : LeafData a s .null
  | text {pieces : List (List Char)}
      (read : ∀ path raw, Segment.parseLenient s.toList ≠ [.placeholder path raw])
      (fills : List.Forall₂ (Segment.Fills a Segment.AsText)
        (Segment.parseLenient s.toList) pieces) :
      LeafData a s (.string (String.ofList pieces.flatten))

/-- The data of a document, found by walking through it: only its strings are replaced. -/
inductive DocumentData (a : Assigns) : Json → Json → Prop
  | null : DocumentData a .null .null
  | bool (value : Bool) : DocumentData a (.bool value) (.bool value)
  | number (value : Number) : DocumentData a (.number value) (.number value)
  | string {s : String} {data : Json} (leaf : LeafData a s data) : DocumentData a (.string s) data
  | array {items data : List Json} (each : List.Forall₂ (DocumentData a) items data) :
      DocumentData a (.array items) (.array data)
  | object {members data : List (String × Json)} (keys : members.map (·.1) = data.map (·.1))
      (each : List.Forall₂ (DocumentData a) (members.map (·.2)) (data.map (·.2))) :
      DocumentData a (.object members) (.object data)

theorem renderItems_eq_map (a : Assigns) (items : List Json) :
    renderItems a (ofItems items) = items.map fun item => (ofJson item).render a := by
  induction items with
  | nil => rfl
  | cons item rest ih => rw [ofItems,renderItems,ih,List.map_cons]

theorem renderMembers_eq_map (a : Assigns) (members : List (String × Json)) :
    renderMembers a (ofMembers members) =
      members.map fun member => (member.1,(ofJson member.2).render a) := by
  induction members with
  | nil => rfl
  | cons member rest ih => rw [ofMembers,renderMembers,ih,List.map_cons]

theorem forall₂_iff_map_eq {α β : Type} {R : α → β → Prop} {f : α → β} {xs : List α}
    (each : ∀ x ∈ xs, ∀ y, R x y ↔ f x = y) (ys : List β) :
    List.Forall₂ R xs ys ↔ xs.map f = ys := by
  induction xs generalizing ys with
  | nil => simp [eq_comm]
  | cons x rest ih =>
    obtain ⟨here,later⟩ := List.forall_mem_cons.mp each
    cases ys with
    | nil => simp
    | cons y ys => simp [here,ih later]

theorem map_members_eq_iff (f : Json → Json) (members values : List (String × Json)) :
    (members.map fun member => (member.1,f member.2)) = values ↔
      members.map (·.1) = values.map (·.1) ∧ (members.map (·.2)).map f = values.map (·.2) := by
  constructor
  · rintro rfl
    simp
  · rintro ⟨keys,same⟩
    rw [List.zip_of_prod keys.symm same.symm]
    exact List.zip_of_prod (by simp) (by simp)

theorem fills_text_iff {segment : Segment} {piece : List Char} :
    Segment.Fills a Segment.AsText segment piece ↔
      segment.render false a = piece := by
  constructor
  · intro fills
    cases fills with
    | literal text => rfl
    | unresolved nowhere => simp [Segment.render,nowhere]
    | content asked bound =>
      simp [Segment.render,Assigns.resolve?_eq_safe_iff.mpr ⟨asked,bound⟩]
    | value leads writes =>
      obtain rfl := writes
      simp [Segment.render,leads]
  · rintro rfl
    exact Segment.fills_render Segment.AsText false (fun _ => rfl) segment

theorem forall₂_fills_text_iff {segments : List Segment} {pieces : List (List Char)} :
    List.Forall₂ (Segment.Fills a Segment.AsText)
      segments pieces ↔ segments.map (Segment.render false a) = pieces := by
  have each : ∀ segment ∈ segments, ∀ piece,
      Segment.Fills a Segment.AsText segment piece ↔
        segment.render false a = piece := fun _ _ _ => fills_text_iff
  exact forall₂_iff_map_eq each pieces

/-- A string has one value, and its template renders it. -/
theorem leafData_iff {data : Json} : LeafData a s data ↔ (ofString s).render a = data := by
  constructor
  · intro leaf
    cases leaf with
    | found read leads => simp [render_ofString_of_placeholder read,leads]
    | nothing read nowhere => simp [render_ofString_of_placeholder read,nowhere]
    | text read fills =>
      rw [render_ofString_of_text read,← forall₂_fills_text_iff.mp fills]
      rfl
  · rintro rfl
    by_cases single : ∃ path raw, Segment.parseLenient s.toList = [.placeholder path raw]
    · obtain ⟨path,raw,read⟩ := single
      rw [render_ofString_of_placeholder read]
      cases leads : a.resolve? path with
      | some resolved => exact .found read leads
      | none => exact .nothing read leads
    · have read (path raw : List Char) :
          Segment.parseLenient s.toList ≠ [.placeholder path raw] :=
        fun same => single ⟨path,raw,same⟩
      rw [render_ofString_of_text read]
      exact .text read (forall₂_fills_text_iff.mpr rfl)

/-- To compile a document and render its template is to walk through the document: it has the data
that is found there, and no other. -/
theorem render_ofJson_iff_documentData (a : Assigns) (document data : Json) :
    (ofJson document).render a = data ↔ DocumentData a document data := by
  induction document using Json.induction generalizing data with
  | null => exact ⟨fun rendered => rendered ▸ .null,fun walked => by cases walked; rfl⟩
  | bool value =>
    exact ⟨fun rendered => rendered ▸ .bool value,fun walked => by cases walked; rfl⟩
  | number value =>
    exact ⟨fun rendered => rendered ▸ .number value,fun walked => by cases walked; rfl⟩
  | string s =>
    constructor
    · exact fun rendered => .string (leafData_iff.mpr rendered)
    · intro walked
      cases walked with
      | string leaf => exact leafData_iff.mp leaf
  | array items ih =>
    have each := forall₂_iff_map_eq fun item present data => (ih item present data).symm
    rw [ofJson,render,renderItems_eq_map]
    constructor
    · rintro rfl
      exact .array ((each _).mpr rfl)
    · intro walked
      cases walked with
      | array same => rw [(each _).mp same]
  | object members ih =>
    have each : ∀ value ∈ members.map (·.2), ∀ data,
        DocumentData a value data ↔ (ofJson value).render a = data := by
      intro value inside data
      obtain ⟨member,present,rfl⟩ := List.mem_map.mp inside
      exact (ih member present data).symm
    rw [ofJson,render,renderMembers_eq_map]
    constructor
    · rintro rfl
      obtain ⟨keys,values⟩ := (map_members_eq_iff _ members _).mp rfl
      exact .object keys ((forall₂_iff_map_eq each _).mpr values)
    · intro walked
      cases walked with
      | object keys values =>
        have same := (forall₂_iff_map_eq each _).mp values
        exact congrArg Json.object ((map_members_eq_iff _ members _).mpr ⟨keys,same⟩)

end DataTemplate

namespace Json

mutual

/-- The document with the braces of its strings doubled; keys stay as they are. -/
def doubled : Json → Json
  | .string s => .string (String.ofList (Segment.doubled s.toList))
  | .array items => .array (doubledItems items)
  | .object members => .object (doubledMembers members)
  | value => value

def doubledItems : List Json → List Json
  | [] => []
  | item :: rest => item.doubled :: doubledItems rest

def doubledMembers : List (String × Json) → List (String × Json)
  | [] => []
  | (key,value) :: rest => (key,value.doubled) :: doubledMembers rest

end

theorem doubledItems_eq_map (items : List Json) : doubledItems items = items.map doubled := by
  induction items with
  | nil => rfl
  | cons item rest ih => rw [doubledItems,ih,List.map_cons]

theorem doubledMembers_eq_map (members : List (String × Json)) :
    doubledMembers members = members.map fun member => (member.1,member.2.doubled) := by
  induction members with
  | nil => rfl
  | cons member rest ih => rw [doubledMembers,ih,List.map_cons]

end Json

namespace DataTemplate

theorem render_ofString_doubled (a : Assigns) (s : String) :
    (ofString (String.ofList (Segment.doubled s.toList))).render a = .string s := by
  have read : Segment.parseLenient (String.ofList (Segment.doubled s.toList)).toList =
      Segment.flush s.toList.reverse [] := by
    rw [String.toList_ofList,Segment.parseLenient_doubled]
  have text : Segment.renderAll false a (Segment.flush s.toList.reverse []) = s.toList := by
    unfold Segment.flush
    split
    next empty => simp_all [Segment.renderAll]
    next => simp [Segment.renderAll,Segment.render]
  rw [render_ofString_of_text,read,text,String.ofList_toList]
  intro path raw same
  rw [read,Segment.flush] at same
  split at same <;> simp at same

/-- Every document is the data of a template, whatever the assigns: that in which the braces of its
strings are doubled. -/
theorem render_ofJson_doubled (a : Assigns) (document : Json) :
    (ofJson document.doubled).render a = document := by
  induction document using Json.induction with
  | null | bool value | number value => rfl
  | string s => exact render_ofString_doubled a s
  | array items ih =>
    rw [Json.doubled,ofJson,render,renderItems_eq_map,Json.doubledItems_eq_map,List.map_map]
    exact congrArg Json.array ((List.map_congr_left ih).trans (List.map_id items))
  | object members ih =>
    rw [Json.doubled,ofJson,render,renderMembers_eq_map,Json.doubledMembers_eq_map,List.map_map]
    have each : ∀ member ∈ members, (member.1,(ofJson member.2.doubled).render a) = member :=
      fun member present => Prod.ext rfl (ih member present)
    exact congrArg Json.object ((List.map_congr_left each).trans (List.map_id members))

end DataTemplate

end ViewTemplates
