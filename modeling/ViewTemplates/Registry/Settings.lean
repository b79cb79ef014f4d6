import ViewTemplates.Registry.Basic

/-! Registry settings: overrides that name built-in engines and encoders, read from YAML. -/
namespace ViewTemplates

structure Registry.Settings where
  engines : Overrides EngineKind := .empty
  formatEncoders : Overrides EncoderKind := .empty

namespace Registry.Settings

/-- Reads overrides: keys with the name of a kind, or with nothing. -/
def overrides? (document : Yaml.Document) (node : Yaml.Node) (ofName? : String → Option α) :
    Option (Overrides α) := do
  let entries ← document.entries? node
  let pairs ← entries.mapM fun (key,node) => do
    match ← document.optional? node with
    | none => some (key,none)
    | some node => do
      let kind ← ofName? (← document.choice? node)
      some (key,some kind)
  some (.ofList pairs)

/-- Sets one field, which must not be set twice. -/
def setField (document : Yaml.Document) (read : List String × Registry.Settings)
    (entry : String × Yaml.Node) : Option (List String × Registry.Settings) := do
  let (seen,settings) := read
  let (key,node) := entry
  if seen.contains key then none
  else
    let settings ←
      if key = "engines" then
        (overrides? document node EngineKind.ofName?).map fun o => { settings with engines := o }
      else if key = "format_encoders" then
        (overrides? document node EncoderKind.ofName?).map fun o =>
          { settings with formatEncoders := o }
      else none
    some (key :: seen,settings)

/-- The settings in YAML; blank text is none. -/
def ofYaml? (text : String) : Option Registry.Settings := do
  if (Text.trim text.toList).isEmpty then some {}
  else match ← Yaml.ofText? text with
    | .empty => some {}
    | .document document =>
      let entries ← document.entries? document.root
      let (_,settings) ← entries.foldlM (setField document) ([],{})
      some settings

def changes (settings : Registry.Settings) : Registry.Changes where
  engines := settings.engines.map (·.map .ofKind)
  encoders := settings.formatEncoders.map (·.map .builtIn)

end Registry.Settings

end ViewTemplates
