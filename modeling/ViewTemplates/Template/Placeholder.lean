import ViewTemplates.Template.Assigns
import ViewTemplates.Text.Blank
import ViewTemplates.Text.Markup

/-! Text with placeholders in braces. A doubled brace is one brace of the text. -/
namespace ViewTemplates

/-- A piece of text, or a placeholder: its path, and what stands between its braces as written. -/
inductive Segment
  | literal (text : List Char)
  | placeholder (path raw : List Char)
deriving DecidableEq, Repr

namespace Segment

inductive Fault
  | unclosed (raw : List Char)
  | empty
deriving DecidableEq, Repr

def Fault.message : Fault → String
  | .unclosed raw => "Unclosed variable substitution: \x7b" ++ String.ofList raw
  | .empty => "Empty variable name in template"

/-- Puts collected characters, last first, before the segments. -/
def flush (collected : List Char) (segments : List Segment) : List Segment :=
  if collected.isEmpty then segments else .literal collected.reverse :: segments

theorem length_of_cut {c : Char} {s before after : List Char}
    (h : Text.cut c s = (before,some after)) : after.length < s.length := by
  induction s generalizing before with
  | nil => simp [Text.cut] at h
  | cons x rest ih =>
    simp only [Text.cut] at h
    split at h
    · obtain ⟨_,h⟩ := Prod.mk.inj h
      simp_all
    · obtain ⟨_,h⟩ := Prod.mk.inj h
      have := ih (show Text.cut c rest = ((Text.cut c rest).1,some after) by rw [← h])
      simp only [List.length_cons]
      omega

/-- The segments of a text. In lenient reading a brace that opens no placeholder is text.
`collected` are the characters of the literal being read, last first. -/
def parseFrom (lenient : Bool) (collected s : List Char) : Except Fault (List Segment) :=
  match s with
  | [] => .ok (flush collected [])
  | '{' :: '{' :: rest => parseFrom lenient ('{' :: collected) rest
  | '{' :: rest =>
    match h : Text.cut '}' rest with
    | (raw,none) =>
      if lenient then .ok (flush (raw.reverse ++ '{' :: collected) []) else .error (.unclosed raw)
    | (raw,some after) =>
      have := length_of_cut h
      let path := Text.trim raw
      if path.isEmpty then
        if lenient then parseFrom lenient ('}' :: raw.reverse ++ '{' :: collected) after
        else .error .empty
      else (parseFrom lenient [] after).map fun segments =>
        flush collected (.placeholder path raw :: segments)
  | '}' :: '}' :: rest => parseFrom lenient ('}' :: collected) rest
  | c :: rest => parseFrom lenient (c :: collected) rest
termination_by s.length
decreasing_by all_goals simp only [List.length_cons]; omega

def parse (s : List Char) : Except Fault (List Segment) := parseFrom false [] s

/-- Reads any text; only well-formed placeholders count. -/
def parseLenient (s : List Char) : List Segment :=
  match parseFrom true [] s with
  | .ok segments => segments
  | .error _ => []

def isPlaceholder : Segment → Bool
  | .placeholder _ _ => true
  | .literal _ => false

/-- The text of a value as it is put in: a string is itself and nothing is empty. -/
def valueText : Json → List Char
  | .string value => value.toList
  | .null => []
  | value => value.chars

/-- The text of a segment. A placeholder that leads nowhere stays as it was written. -/
def render (escape : Bool) (assigns : Assigns) : Segment → List Char
  | .literal text => text
  | .placeholder path raw =>
    match assigns.resolve? path with
    | some (.safe text) => text.toList
    | some (.value value) =>
      if escape then Markup.escaped (valueText value) else valueText value
    | none => '{' :: raw ++ ['}']

def renderAll (escape : Bool) (assigns : Assigns) (segments : List Segment) : List Char :=
  segments.flatMap (render escape assigns)

end Segment

end ViewTemplates
