import ViewTemplates.Registry.Shared
import ViewTemplates.View.Basic

/-! Putting a renderer together. -/
namespace ViewTemplates

namespace Renderer

/-- Every view is held under its own name. -/
def Named (views : KeyMap View) : Prop :=
  ∀ name view, views.find? name = some view → view.name = name

theorem named_empty : Named .empty := by simp [Named]

theorem named_insert {views : KeyMap View} (named : Named views) (view : View) :
    Named (views.insert view.name view) := by
  intro name held found
  rw [KeyMap.find?_insert] at found
  split at found
  next same => exact Option.some.inj found ▸ same.symm
  next => exact named name held found

end Renderer

structure Renderer where
  registry : Registry.Instance
  views : KeyMap View
  named : Renderer.Named views

namespace Renderer

structure Assembly where
  registry : Option Registry.Instance
  views : KeyMap View
  named : Named views

namespace Assembly

def empty : Assembly := ⟨none,.empty,named_empty⟩

def withRegistry (assembly : Assembly) (registry : Registry.Instance) : Assembly :=
  { assembly with registry := some registry }

/-- The registry that was chosen, or else the shared one. -/
def chosen (assembly : Assembly) (shared : Registry.Shared) :
    Registry.Instance × Registry.Shared :=
  match assembly.registry with
  | some registry => (registry,shared)
  | none => shared.get

def insert (assembly : Assembly) (view : View) : Except SetupError Assembly :=
  if assembly.views.contains view.name then .error (.alreadySetUp view.name)
  else .ok
    { assembly with
      views := assembly.views.insert view.name view
      named := named_insert assembly.named view }

/-- Compiles a view and adds it. From then on the registry is settled. -/
def add (assembly : Assembly) (disk : Disk) (shared : Registry.Shared)
    (declaration : ViewDeclaration) : Except SetupError Assembly × Registry.Shared :=
  let (registry,shared) := assembly.chosen shared
  (do
    let view ← View.compile disk registry.registry declaration
    (assembly.withRegistry registry).insert view,
   shared)

def build (assembly : Assembly) (shared : Registry.Shared) : Renderer × Registry.Shared :=
  let (registry,shared) := assembly.chosen shared
  (⟨registry,assembly.views,assembly.named⟩,shared)

end Assembly

end Renderer

end ViewTemplates
