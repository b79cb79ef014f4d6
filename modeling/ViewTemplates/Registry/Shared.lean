import ViewTemplates.Registry.Basic

/-! The registry that is shared by all who name none of their own. -/
namespace ViewTemplates.Registry

/-- A registry that others can hold: two holders hold the same one if the identities agree. -/
structure Instance where
  identity : Nat
  registry : Registry

/-- The registry that is shared by all who name none of their own, and the identity that no
registry has yet. -/
structure Shared where
  next : Nat := 0
  current : Option Instance := none

namespace Shared

/-- Gives a registry an identity of its own. -/
def allocate (shared : Shared) (registry : Registry) : Instance × Shared :=
  (⟨shared.next,registry⟩,{ shared with next := shared.next + 1 })

/-- The shared registry; the defaults where there is none yet. -/
def get (shared : Shared) : Instance × Shared :=
  match shared.current with
  | some current => (current,shared)
  | none =>
    let (current,shared) := shared.allocate default
    (current,{ shared with current := some current })

def put (shared : Shared) (registry : Registry) : Instance × Shared :=
  let (current,shared) := shared.allocate registry
  (current,{ shared with current := some current })

def reset (shared : Shared) : Shared := { shared with current := none }

end Shared

end ViewTemplates.Registry
