import ViewTemplates.Naming
import ViewTemplates.Output.Encoder
import ViewTemplates.Registry.Overrides
import ViewTemplates.Template.Engine

/-! The registry: which engine compiles files of an extension, and which encoder finishes the
output of a format. -/
namespace ViewTemplates

/-- What a registry changes of the defaults. Of several changes to one key the last counts. -/
structure Registry.Changes where
  engines : Overrides Engine := .empty
  encoders : Overrides Encoder := .empty

namespace Registry.Changes

def engine (changes : Registry.Changes) (extension : String) (engine : Engine) : Registry.Changes :=
  { changes with engines := changes.engines.insert extension (some engine) }

def disableEngine (changes : Registry.Changes) (extension : String) : Registry.Changes :=
  { changes with engines := changes.engines.insert extension none }

def encoder (changes : Registry.Changes) (format : String) (encoder : Encoder) : Registry.Changes :=
  { changes with encoders := changes.encoders.insert format (some encoder) }

def disableEncoder (changes : Registry.Changes) (format : String) : Registry.Changes :=
  { changes with encoders := changes.encoders.insert format none }

end Registry.Changes

structure Registry where
  engines : KeyMap Engine
  encoders : KeyMap Encoder

namespace Registry

def build (changes : Registry.Changes) : Registry where
  engines := Engine.defaults.overridden changes.engines
  encoders := Encoder.defaults.overridden changes.encoders

def default : Registry := build {}

instance : Inhabited Registry := ⟨default⟩

def engine? (registry : Registry) (extension : String) : Option Engine :=
  registry.engines.find? extension

/-- The extensions that have an engine, in ascending order. -/
def engineExtensions (registry : Registry) : List String := registry.engines.keys

/-- The encoder for the format that a template name ends in. -/
def encoder? (registry : Registry) (template : String) : Option Encoder :=
  (Naming.format? template).bind registry.encoders.find?

def label (registry : Registry) : String :=
  String.ofList ("Registry \x7b engines: ".toList ++ Text.quotedList registry.engines.keys ++
    ", encoders: ".toList ++ Text.quotedList registry.encoders.keys ++ " \x7d".toList)

end Registry

end ViewTemplates
