import Mathlib.Data.List.Forall2
import ViewTemplates.Output.Encoder
import ViewTemplates.Template.Engine

/-! What a template of text is filled with. Its text is one piece for each segment: literals and
placeholders that lead nowhere stay as they are, inner content that is safe is put in as it is, and
values are written as text. In templates of markup the text of a value is escaped, so that it has no
part in the markup and nothing of it is lost. -/
namespace ViewTemplates

theorem Naming.isMarkup_iff {name : String} :
    isMarkup name = true ↔ ∃ format ∈ ["html","htm","xml"], format? name = some format := by
  unfold isMarkup
  cases format? name with
  | none => simp
  | some format => simp [or_assoc]

namespace Markup

/-- The characters that tags and the quotes around attributes are made of. -/
def delimiters : List Char := ['<','>','"','\'','/']

/-- The characters that are escaped, each with its entity. -/
def entities : List (Char × List Char) :=
  [('<',['&','l','t',';']),('>',['&','g','t',';']),('&',['&','a','m','p',';']),
    ('"',['&','q','u','o','t',';']),('\'',['&','#','x','2','7',';']),
    ('/',['&','#','x','2','f',';'])]

/-- The text with the character of each entity in its place. -/
def unescaped : List Char → List Char
  | '&' :: 'l' :: 't' :: ';' :: rest => '<' :: unescaped rest
  | '&' :: 'g' :: 't' :: ';' :: rest => '>' :: unescaped rest
  | '&' :: 'a' :: 'm' :: 'p' :: ';' :: rest => '&' :: unescaped rest
  | '&' :: 'q' :: 'u' :: 'o' :: 't' :: ';' :: rest => '"' :: unescaped rest
  | '&' :: '#' :: 'x' :: '2' :: '7' :: ';' :: rest => '\'' :: unescaped rest
  | '&' :: '#' :: 'x' :: '2' :: 'f' :: ';' :: rest => '/' :: unescaped rest
  | c :: rest => c :: unescaped rest
  | [] => []

/-- Text that adds nothing to the markup around it and is read there as `text`. -/
structure IsEscaped (written text : List Char) : Prop where
  inert : ∀ c ∈ delimiters, c ∉ written
  decoded : unescaped written = text

theorem unescaped_cons {c : Char} (plain : c ≠ '&') (rest : List Char) :
    unescaped (c :: rest) = c :: unescaped rest := by
  rw [unescaped] <;> simp [plain]

theorem unescaped_entity :
    ∀ entity ∈ entities, ∀ rest, unescaped (entity.2 ++ rest) = entity.1 :: unescaped rest := by
  simp [entities,unescaped]

/-- What is written for a character: its entity if it has one, or the character itself. -/
theorem escape_cases (c : Char) :
    (c,escape c) ∈ entities ∨ (c ∉ delimiters ∧ c ≠ '&') ∧ escape c = [c] := by
  unfold escape
  split_ifs <;> simp_all [entities,delimiters]

theorem unescaped_escape (c : Char) (rest : List Char) :
    unescaped (escape c ++ rest) = c :: unescaped rest := by
  rcases escape_cases c with entity | ⟨⟨-,plain⟩,same⟩
  · exact unescaped_entity _ entity rest
  · rw [same]
    exact unescaped_cons plain rest

theorem unescaped_escaped (s : List Char) : unescaped (escaped s) = s := by
  induction s with
  | nil => rfl
  | cons c rest ih =>
    change unescaped (escape c ++ escaped rest) = c :: rest
    rw [unescaped_escape,ih]

theorem not_mem_escape {delimiter : Char} (member : delimiter ∈ delimiters) (c : Char) :
    delimiter ∉ escape c := by
  have inert : ∀ d ∈ delimiters, ∀ entity ∈ entities, d ∉ entity.2 := by
    simp [delimiters,entities]
  rcases escape_cases c with entity | ⟨⟨plain,-⟩,same⟩
  · exact inert delimiter member _ entity
  · rw [same,List.mem_singleton]
    rintro rfl
    exact plain member

theorem isEscaped_escaped (s : List Char) : IsEscaped (escaped s) s := by
  refine ⟨fun delimiter member found => ?_,unescaped_escaped s⟩
  obtain ⟨c,-,inEscape⟩ := List.mem_flatMap.mp found
  exact not_mem_escape member c inEscape

end Markup

theorem Engine.compile_simple_eq_ok_iff {name source : String} {template : Template} :
    Engine.simple.compile name source = .ok template ↔
      ∃ segments, Segment.parse source.toList = .ok segments ∧
        template = .simple (Naming.isMarkup name) segments := by
  unfold compile
  split
  case h_2 =>
    cases Segment.parse source.toList with
    | ok segments => simp [eq_comm]
    | error fault => simp
  all_goals contradiction

theorem Template.render_simple (escape : Bool) (segments : List Segment) (a : Assigns) :
    (simple escape segments).render a =
      .ok (.safe (String.ofList (Segment.renderAll escape a segments))) := rfl

namespace Assigns

/-- Inner content that is safe, which is never escaped again. -/
def safeContent (a : Assigns) : List Char :=
  match a.innerContent with
  | some (.safe text) => text.toList
  | _ => []

/-- Only inner content is safe, and it is reached by its own name alone. -/
theorem resolve?_eq_safe_iff {a : Assigns} {path : List Char} {text : String} :
    a.resolve? path = some (.safe text) ↔
      path = innerContentKey.toList ∧ a.innerContent = some (.safe text) := by
  constructor
  · intro leads
    unfold resolve? at leads
    split at leads
    next => contradiction
    next head rest cut =>
      have whole := Text.joined_pieces '.' path
      dsimp only at leads
      split at leads
      next bound =>
        split at bound
        next named =>
          obtain rfl := Resolved.safe.inj (Option.some.inj leads)
          rw [cut,Text.joined] at whole
          exact ⟨by rw [← whole,← named,String.toList_ofList],bound⟩
        next => contradiction
      next => contradiction
      next => simp at leads
      next => simp [Option.bind_eq_some_iff] at leads
  · rintro ⟨rfl,bound⟩
    have cut : Text.pieces '.' innerContentKey.toList = [innerContentKey.toList] := by decide
    simp [resolve?,cut,bound]

end Assigns

theorem DataTemplate.literalText_cons (segment : Segment) (segments : List Segment) :
    literalText (segment :: segments) = literalText [segment] ++ literalText segments := by
  simp [literalText]

namespace Segment

section

variable (a : Assigns)

/-- What a segment puts into a text, where `Writes` says how values are written. -/
inductive Fills (Writes : Json → List Char → Prop) : Segment → List Char → Prop
  | literal (text : List Char) : Fills Writes (.literal text) text
  | unresolved {path raw : List Char} (nowhere : a.resolve? path = none) :
      Fills Writes (.placeholder path raw) ('{' :: raw ++ ['}'])
  | content {path raw : List Char} {text : String} (asked : path = Assigns.innerContentKey.toList)
      (bound : a.innerContent = some (.safe text)) :
      Fills Writes (.placeholder path raw) text.toList
  | value {path raw written : List Char} {value : Json}
      (leads : a.resolve? path = some (.value value)) (writes : Writes value written) :
      Fills Writes (.placeholder path raw) written

def AsText (value : Json) (written : List Char) : Prop := written = valueText value

def AsMarkup (value : Json) (written : List Char) : Prop :=
  Markup.IsEscaped written (valueText value)

/-- The placeholders that lead nowhere, as they are written. -/
def unresolvedText (segments : List Segment) : List Char :=
  segments.flatMap fun
    | .literal _ => []
    | .placeholder path raw => if (a.resolve? path).isNone then '{' :: raw ++ ['}'] else []

end

def isContent : Segment → Bool
  | .literal _ => false
  | .placeholder path _ => path == Assigns.innerContentKey.toList

section

variable {a : Assigns} {Writes : Json → List Char → Prop} {segment : Segment}
  {segments : List Segment} {piece : List Char} {pieces : List (List Char)} {c : Char}

variable (Writes) in
theorem fills_render (escape : Bool)
    (writes : ∀ value, Writes value
      (if escape then Markup.escaped (valueText value) else valueText value))
    (segment : Segment) : Fills a Writes segment (render escape a segment) := by
  cases segment with
  | literal text => exact .literal text
  | placeholder path raw =>
    simp only [render]
    split
    next text leads =>
      obtain ⟨asked,bound⟩ := Assigns.resolve?_eq_safe_iff.mp leads
      exact .content asked bound
    next value leads => exact .value leads (writes value)
    next nowhere => exact .unresolved nowhere

variable (Writes) in
theorem exists_pieces (escape : Bool)
    (writes : ∀ value, Writes value
      (if escape then Markup.escaped (valueText value) else valueText value))
    (a : Assigns) (segments : List Segment) :
    ∃ pieces, List.Forall₂ (Fills a Writes) segments pieces ∧
      renderAll escape a segments = pieces.flatten := by
  refine ⟨segments.map (render escape a),?_,List.flatMap_def⟩
  rw [List.forall₂_map_right_iff,List.forall₂_same]
  exact fun segment _ => fills_render Writes escape writes segment

theorem count_safeContent_of_unbound {path : List Char}
    (unbound : ∀ text, a.resolve? path ≠ some (.safe text)) (raw : List Char) (c : Char) :
    (if isContent (.placeholder path raw) then a.safeContent.count c else 0) = 0 := by
  split
  next asks =>
    unfold Assigns.safeContent
    split
    next text bound =>
      have asked : path = Assigns.innerContentKey.toList := by simpa [isContent] using asks
      exact absurd (Assigns.resolve?_eq_safe_iff.mpr ⟨asked,bound⟩) (unbound text)
    next => rfl
  next => rfl

/-- How often a character occurs in a piece, where the text of values does not have it. -/
theorem Fills.count (absent : ∀ value written, Writes value written → c ∉ written)
    (fills : Fills a Writes segment piece) :
    piece.count c = (DataTemplate.literalText [segment]).count c +
      (unresolvedText a [segment]).count c +
      if segment.isContent then a.safeContent.count c else 0 := by
  cases fills with
  | literal text => simp [DataTemplate.literalText,unresolvedText,isContent]
  | @unresolved path raw nowhere =>
    have unbound : ∀ text, a.resolve? path ≠ some (.safe text) := by simp [nowhere]
    have none := count_safeContent_of_unbound unbound raw c
    simp [DataTemplate.literalText,unresolvedText,nowhere,none]
  | @content path raw text asked bound =>
    have leads := Assigns.resolve?_eq_safe_iff.mpr ⟨asked,bound⟩
    simp [DataTemplate.literalText,unresolvedText,leads,isContent,← asked,Assigns.safeContent,bound]
  | @value path raw _ value leads writes =>
    have unbound : ∀ text, a.resolve? path ≠ some (.safe text) := by simp [leads]
    have none := count_safeContent_of_unbound unbound raw c
    have never := List.count_eq_zero_of_not_mem (absent value piece writes)
    simp [DataTemplate.literalText,unresolvedText,leads,none,never]

theorem unresolvedText_cons (segment : Segment) (segments : List Segment) :
    unresolvedText a (segment :: segments) =
      unresolvedText a [segment] ++ unresolvedText a segments := by
  simp [unresolvedText]

/-- A character that the text of values does not have comes from the template as it is written, or
from inner content. -/
theorem count_flatten_of_fills (absent : ∀ value written, Writes value written → c ∉ written)
    (fills : List.Forall₂ (Fills a Writes) segments pieces) :
    pieces.flatten.count c = (DataTemplate.literalText segments).count c +
      (unresolvedText a segments).count c +
      segments.countP isContent * a.safeContent.count c := by
  induction fills with
  | nil => simp [DataTemplate.literalText,unresolvedText]
  | @cons segment piece segments pieces first _ ih =>
    rw [DataTemplate.literalText_cons,unresolvedText_cons,List.flatten_cons]
    simp only [List.count_append,List.countP_cons,Nat.add_mul,ih,first.count absent]
    cases segment.isContent <;> simp <;> omega

end

end Segment

namespace Markup

/-- In a template of markup the characters of markup are those of its literals, of its placeholders
that lead nowhere, and of safe inner content each time it is put in. Every other value, of whatever
kind, is escaped: it adds none of them, and its whole text can be read back. The encoder of markup
writes data in the same way. -/
theorem values_add_no_markup :
    (∀ name source template,
      (∃ format ∈ ["html","htm","xml"], Naming.format? name = some format) →
      Engine.simple.compile name source = .ok template →
      ∃ segments, Segment.parse source.toList = .ok segments ∧ ∀ a : Assigns, ∃ pieces,
        template.render a = .ok (.safe (String.ofList pieces.flatten)) ∧
        List.Forall₂ (Segment.Fills a Segment.AsMarkup) segments pieces ∧
        ∀ c ∈ delimiters, pieces.flatten.count c =
          (DataTemplate.literalText segments).count c +
            (Segment.unresolvedText a segments).count c +
            segments.countP Segment.isContent * a.safeContent.count c) ∧
    ∀ value, ∃ written, EncoderKind.markup.encode (.data value) = .ok (Utf8.encode written) ∧
      IsEscaped written value.bareText.toList := by
  refine ⟨?_,fun value => ⟨_,rfl,isEscaped_escaped _⟩⟩
  intro name source template format compiled
  have escape := Naming.isMarkup_iff.mpr format
  obtain ⟨segments,read,rfl⟩ := Engine.compile_simple_eq_ok_iff.mp compiled
  refine ⟨segments,read,fun a => ?_⟩
  obtain ⟨pieces,fills,whole⟩ := Segment.exists_pieces Segment.AsMarkup true
    (fun value => isEscaped_escaped (Segment.valueText value)) a segments
  refine ⟨pieces,?_,fills,fun c member => ?_⟩
  · rw [escape,Template.render_simple,whole]
  · exact Segment.count_flatten_of_fills (fun _ _ escaped => escaped.inert c member) fills

/-- A value with markup in it, a placeholder that leads nowhere, and inner content. -/
def framedSource : String := "<p>\x7bx\x7d</p>\x7b 'y\x7d\x7binner_content\x7d"

def framedSegments : List Segment :=
  [.literal ['<','p','>'],.placeholder ['x'] ['x'],.literal ['<','/','p','>'],
    .placeholder ['\'','y'] [' ','\'','y'],
    .placeholder Assigns.innerContentKey.toList Assigns.innerContentKey.toList]

def framedAssigns : Assigns :=
  (Assigns.ofList [("x",.array [.string "<b>'"])]).setInnerContent (.safe "<hr>")

theorem values_add_no_markup_framed :
    Naming.format? "page.html" = some "html" ∧
    Engine.simple.compile "page.html" framedSource = .ok (.simple true framedSegments) ∧
    ∃ text, (Template.simple true framedSegments).render framedAssigns =
        .ok (.safe (String.ofList text)) ∧
      text.count '<' = 3 ∧ text.count '\'' = 1 ∧ text.count '"' = 0 := by
  have format : Naming.format? "page.html" = some "html" := by decide +kernel
  have escape := Naming.isMarkup_iff.mpr ⟨"html",by decide,format⟩
  have parsed : Segment.parse framedSource.toList = .ok framedSegments := by cbv
  have compiled : Engine.simple.compile "page.html" framedSource =
      .ok (.simple true framedSegments) :=
    Engine.compile_simple_eq_ok_iff.mpr ⟨framedSegments,parsed,by rw [escape]⟩
  obtain ⟨templates,-⟩ := values_add_no_markup
  obtain ⟨segments,read,filled⟩ := templates _ _ _ ⟨"html",by decide,format⟩ compiled
  obtain rfl := Except.ok.inj (read.symm.trans parsed)
  obtain ⟨pieces,rendered,-,counted⟩ := filled framedAssigns
  refine ⟨format,compiled,pieces.flatten,rendered,?_,?_,?_⟩
  · rw [counted _ (by decide)]
    decide +kernel
  · rw [counted _ (by decide)]
    decide +kernel
  · rw [counted _ (by decide)]
    decide +kernel

end Markup

end ViewTemplates
