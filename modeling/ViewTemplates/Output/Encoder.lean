import ViewTemplates.Csv
import ViewTemplates.Output.Basic
import ViewTemplates.Text.Markup
import ViewTemplates.Xml
import ViewTemplates.Yaml.Text

/-! Encoders: from rendered values to the bytes of an output format. -/
namespace ViewTemplates

/-- Why a value is not encoded. With JSON and YAML only encoders of the caller's own fail. -/
inductive EncodingError
  | json
  | yaml
  | xml (name : String)
  | csv (reason : String)
deriving DecidableEq, Repr

/-- The message of an error; it is fixed for comma-separated values only. -/
def EncodingError.message? : EncodingError → Option String
  | .json | .yaml | .xml _ => none
  | .csv reason => some ("CSV encoding failed: " ++ reason)

inductive EncoderKind
  | markup
  | script
  | json
  | yaml
  | xml
  | csv
deriving DecidableEq, Repr

namespace EncoderKind

def all : List EncoderKind := [.markup,.script,.json,.yaml,.xml,.csv]

def name : EncoderKind → String
  | .markup => "markup"
  | .script => "script"
  | .json => "json"
  | .yaml => "yaml"
  | .xml => "xml"
  | .csv => "csv"

def ofName? (name : String) : Option EncoderKind := all.find? (·.name == name)

/-- The text of a script literal: JSON text in which no closing tag can appear. -/
def scriptChars (value : Json) : List Char := Text.replaceAll ['<','/'] ['<','\\','/'] value.chars

/-- The text of a rendered value. Safe text is kept as it is, except where the format has strings
of its own. -/
def write (kind : EncoderKind) (rendered : Rendered) : Except EncodingError (List Char) :=
  match kind, rendered with
  | .json, rendered => .ok rendered.toJson.chars
  | .yaml, rendered => .ok (Yaml.chars rendered.toJson)
  | _, .safe text => .ok text.toList
  | .markup, .data value => .ok (Markup.escaped value.bareText.toList)
  | .script, .data value => .ok (scriptChars value)
  | .xml, .data value => (Xml.write value).mapError fun fault => .xml fault.name
  | .csv, .data value => (Csv.flatten value).write.mapError fun fault => .csv fault.message

def encode (kind : EncoderKind) (rendered : Rendered) : Except EncodingError Utf8.Bytes :=
  (kind.write rendered).map Utf8.encode

end EncoderKind

inductive Encoder
  | builtIn (kind : EncoderKind)
  | custom (run : Rendered → Except EncodingError Utf8.Bytes)

namespace Encoder

def encode (encoder : Encoder) (rendered : Rendered) : Except EncodingError Utf8.Bytes :=
  match encoder with
  | .builtIn kind => kind.encode rendered
  | .custom run => run rendered

def defaults : KeyMap Encoder :=
  .ofList [("html",.builtIn .markup),("js",.builtIn .script),("json",.builtIn .json),
    ("yaml",.builtIn .yaml),("xml",.builtIn .xml),("csv",.builtIn .csv)]

end Encoder

end ViewTemplates
