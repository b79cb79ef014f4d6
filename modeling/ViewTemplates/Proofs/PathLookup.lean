import ViewTemplates.Template.Assigns

/-! Dotted paths in assigns and in the object that stands for them. To resolve a path, its first
part is looked at alone, since it may ask for the inner content, and the others are followed from
there; in the object the inner content is a member like any other. Both ways lead to the same
data. -/
namespace ViewTemplates

namespace Path

theorem follow?_cons (value : Json) (part : List Char) (rest : List (List Char)) :
    follow? value (part :: rest) = (step? value part).bind (follow? · rest) := rfl

theorem follow?_string_cons (text : String) (part : List Char) (rest : List (List Char)) :
    follow? (.string text) (part :: rest) = none := rfl

end Path

theorem Resolved.toJson_comp_value : Resolved.toJson ∘ Resolved.value = id := rfl

namespace Assigns

variable {a : Assigns}

/-- The member of the object under a key: the inner content if it is bound and the key is its own,
and else the value of the key. -/
def member? (a : Assigns) (key : String) : Option Json :=
  (if key = innerContentKey then a.innerContent.map Rendered.toJson else none).or (a.get? key)

theorem member?_of_unbound (unbound : a.innerContent = none) (key : String) :
    a.member? key = a.get? key := by
  simp [member?,unbound]

theorem member?_innerContentKey {content : Rendered} (bound : a.innerContent = some content) :
    a.member? innerContentKey = some content.toJson := by
  simp [member?,bound]

theorem member?_of_ne {key : String} (other : key ≠ innerContentKey) :
    a.member? key = a.get? key := by
  simp [member?,other]

theorem exists_toJson_eq_object (a : Assigns) :
    ∃ members, a.toJson = .object members ∧ ∀ key, Entries.find? key members = a.member? key := by
  cases bound : a.innerContent with
  | none =>
    refine ⟨a.values.entries,by simp only [toJson,bound,Json.ofKeyMap],fun key => ?_⟩
    rw [member?_of_unbound bound]
    rfl
  | some content =>
    let merged := a.values.insert innerContentKey content.toJson
    refine ⟨merged.entries,by simp only [toJson,bound,Json.ofKeyMap,merged],fun key => ?_⟩
    have found := a.values.find?_insert innerContentKey key content.toJson
    by_cases own : key = innerContentKey
    · subst own
      rw [member?_innerContentKey bound]
      exact found.trans (if_pos rfl)
    · rw [member?_of_ne own]
      exact found.trans (if_neg own)

/-- Resolving a path begins with the member that its first part names and goes on from there. -/
theorem map_toJson_resolve? {path head : List Char} {rest : List (List Char)}
    (cut : Text.pieces '.' path = head :: rest) :
    (a.resolve? path).map Resolved.toJson =
      (a.member? (String.ofList head)).bind (Path.follow? · rest) := by
  simp only [resolve?,cut]
  by_cases own : String.ofList head = innerContentKey
  · rw [if_pos own]
    cases bound : a.innerContent with
    | none =>
      rw [member?_of_unbound bound]
      cases a.get? (String.ofList head) <;> simp [Resolved.toJson_comp_value]
    | some content =>
      rw [own,member?_innerContentKey bound]
      cases content with
      | safe text =>
        -- A safe text is all that a path to the inner content can lead to.
        cases rest with
        | nil => rfl
        | cons part rest => simp [Rendered.toJson,Path.follow?_string_cons]
      | data value => cases rest <;> simp [Rendered.toJson,Resolved.toJson_comp_value]
  · rw [if_neg own,member?_of_ne own]
    cases a.get? (String.ofList head) <;> simp [Resolved.toJson_comp_value]

/-- The assigns as an object have the inner content under its own key, where it hides a value, and
all other values under theirs. A path that is resolved leads to what its parts lead to from the root
of this object, and to nothing where they do. -/
theorem resolve?_agrees_with_object (a : Assigns) :
    (∃ members, a.toJson = .object members ∧ ∀ key, Entries.find? key members =
      (if key = innerContentKey then a.innerContent.map Rendered.toJson else none).or
        (a.get? key)) ∧
    ∀ path, (a.resolve? path).map Resolved.toJson =
      Path.follow? a.toJson (Text.pieces '.' path) := by
  obtain ⟨members,object,found⟩ := a.exists_toJson_eq_object
  refine ⟨⟨members,object,found⟩,fun path => ?_⟩
  obtain ⟨head,rest,cut⟩ := List.exists_cons_of_ne_nil (Text.pieces_ne_nil '.' path)
  rw [map_toJson_resolve? cut,cut,object,Path.follow?_cons,← found (String.ofList head)]
  rfl

end Assigns

end ViewTemplates
