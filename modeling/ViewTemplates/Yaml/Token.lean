import ViewTemplates.Text.Utf8

/-! The tokens of YAML text. -/
namespace ViewTemplates.Yaml

/-- A tag as written: the handle it abbreviates a beginning with, and the bytes of the rest. -/
structure TagName where
  handle : List Char
  suffix : Utf8.Bytes
deriving DecidableEq, Repr

inductive Token
  | versionDirective (major minor : Nat)
  | tagDirective (handle : List Char) (beginning : Utf8.Bytes)
  | documentStart
  | documentEnd
  | blockSequenceStart
  | blockMappingStart
  | blockEnd
  | flowSequenceStart
  | flowSequenceEnd
  | flowMappingStart
  | flowMappingEnd
  | blockEntry
  | flowEntry
  | key
  | value
  | aliasOf (name : List Char)
  | anchor (name : List Char)
  | tag (name : TagName)
  | scalar (plain : Bool) (text : List Char)
deriving DecidableEq, Repr

end ViewTemplates.Yaml
