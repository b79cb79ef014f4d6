import ViewTemplates.Output.Rendered
import ViewTemplates.Text.Utf8

/-! Finished outputs. -/
namespace ViewTemplates

/-- A finished output: bytes of an encoder, or the rendered value where there is no encoder. -/
inductive Output
  | encoded (bytes : Utf8.Bytes)
  | raw (rendered : Rendered)
deriving BEq

/-- The output as one text, if its bytes are text. -/
def Output.text? : Output → Except Utf8.Defect String
  | .encoded bytes => (Utf8.decode bytes).map String.ofList
  | .raw rendered => .ok rendered.text

end ViewTemplates
