import ViewTemplates.KeyMap

/-! Maps of defaults that can be overridden key by key. -/
namespace ViewTemplates

/-- Overrides of the defaults: a replacement, or nothing to take the default away. -/
abbrev Overrides (α : Type) := KeyMap (Option α)

namespace KeyMap

/-- Binds a key to a replacement, or takes it away. -/
def override (map : KeyMap α) (key : String) : Option α → KeyMap α
  | some value => map.insert key value
  | none => map.erase key

def overridden (defaults : KeyMap α) (overrides : Overrides α) : KeyMap α :=
  overrides.entries.foldl (fun map e => map.override e.1 e.2) defaults

@[simp] theorem find?_override (map : KeyMap α) (key other : String) (entry : Option α) :
    (map.override key entry).find? other = if other = key then entry else map.find? other := by
  cases entry <;> simp [override]

/-- An override decides for its key, and the default for every other one. -/
@[simp] theorem find?_overridden (defaults : KeyMap α) (overrides : Overrides α) (key : String) :
    (defaults.overridden overrides).find? key =
      (overrides.find? key).getD (defaults.find? key) := by
  obtain ⟨entries,ascending⟩ := overrides
  simp only [overridden,KeyMap.find?]
  induction entries generalizing defaults with
  | nil => rfl
  | cons e rest ih =>
    obtain ⟨k,entry⟩ := e
    obtain ⟨below,tail⟩ := List.pairwise_cons.mp ascending
    have step := ih (defaults.override k entry) tail
    simp only [List.foldl_cons,Entries.find?] at step ⊢
    rw [step]
    rcases found : Entries.find? key rest with _ | later
    · have := find?_override defaults k key entry
      simp only [KeyMap.find?] at this
      rw [this]
      by_cases same : key = k <;> simp [same,eq_comm]
    · have above := below _ (Entries.mem_of_find? found)
      have differs : k ≠ key := fun same => String.lt_irrefl key (same ▸ above)
      simp [differs]

end KeyMap

end ViewTemplates
