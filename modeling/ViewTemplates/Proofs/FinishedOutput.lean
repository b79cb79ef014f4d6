import ViewTemplates.Proofs.CsvReading
import ViewTemplates.Proofs.Decision
import ViewTemplates.Proofs.Dispatch
import ViewTemplates.Proofs.XmlNames
import ViewTemplates.Registry.Settings

/-! Finishing the output of a template. A built-in encoder has bytes for every rendered value, and
they are text, so where there are no other encoders the text of a template is missing only where
the template is not rendered. -/
namespace ViewTemplates

namespace EncoderKind

theorem exists_write (kind : EncoderKind) (rendered : Rendered) :
    ∃ text, kind.write rendered = .ok text := by
  cases rendered with
  | safe text => cases kind <;> exact ⟨_,rfl⟩
  | data value =>
    cases kind with
    | xml => exact ⟨_,by rw [write,Xml.write_eq_ok]; rfl⟩
    | csv => exact ⟨_,by rw [write,Csv.write_flatten]; rfl⟩
    | markup | script | json | yaml => exact ⟨_,rfl⟩

theorem encode_of_write {kind : EncoderKind} {rendered : Rendered} {text : List Char}
    (written : kind.write rendered = .ok text) :
    kind.encode rendered = .ok (Utf8.encode text) := by
  rw [encode,written]
  rfl

end EncoderKind

namespace Registry

def BuiltIn (registry : Registry) : Prop :=
  ∀ format encoder, registry.encoders.find? format = some encoder → ∃ kind, encoder = .builtIn kind

theorem builtIn_default : default.BuiltIn := by
  intro format encoder found
  have member := Entries.mem_of_mem_ofList (Entries.mem_of_find? found)
  simp only [List.mem_cons,List.not_mem_nil,or_false,Prod.mk.injEq] at member
  rcases member with ⟨-,rfl⟩ | ⟨-,rfl⟩ | ⟨-,rfl⟩ | ⟨-,rfl⟩ | ⟨-,rfl⟩ | ⟨-,rfl⟩
  all_goals exact ⟨_,rfl⟩

/-- Settings name built-in encoders only. -/
theorem builtIn_settings (settings : Settings) : (build settings.changes).BuiltIn := by
  intro format encoder found
  simp only [build,Settings.changes,KeyMap.find?_overridden,KeyMap.find?_map] at found
  cases bound : settings.formatEncoders.find? format with
  | none =>
    rw [bound] at found
    exact builtIn_default format encoder found
  | some change =>
    rw [bound] at found
    obtain ⟨kind,-,rfl⟩ := Option.map_eq_some_iff.mp found
    exact ⟨kind,rfl⟩

end Registry

namespace Renderer

variable {renderer : Renderer} {template : String} {rendered : Rendered} {text : String}

def runPlain (renderer : Renderer) (depth : Nat) (view template : String) (a : Assigns) :
    Run Rendered :=
  renderer.run depth ⟨view,template,a,.plain⟩

def runText (renderer : Renderer) (depth : Nat) (view template : String) (a : Assigns) :
    Run String :=
  renderer.run depth ⟨view,template,a,.text⟩

/-- How a call for text goes on from the rendered value. -/
def finish (renderer : Renderer) (template : String) (rendered : Rendered) : Run String :=
  let output : Run Output := match renderer.registry.registry.encoder? template with
    | none => pure (.raw rendered)
    | some encoder => do
      let bytes ← Run.ofExcept ((encoder.encode rendered).mapError .encode)
      pure (.encoded bytes)
  output >>= fun output => Run.ofExcept (output.text?.mapError .notText)

theorem runText_eq (renderer : Renderer) (depth : Nat) (view template : String) (a : Assigns) :
    renderer.runText depth view template a =
      renderer.runPlain depth view template a >>= renderer.finish template := by
  cases depth with
  | zero => rfl
  | succ depth =>
    change renderer.renderOutput _ view template a >>= _ = _
    rw [renderOutput,Run.bind_assoc]
    rfl

/-- What the text of a template is, given its rendered value: it has the bytes that the encoder of
its format gives, and where the format has no encoder it is the value as text. -/
def IsFinished (renderer : Renderer) (template : String) (rendered : Rendered) (text : String) :
    Prop :=
  match renderer.registry.registry.encoder? template with
  | some encoder => encoder.encode rendered = .ok (Utf8.encode text.toList)
  | none => text = rendered.text

theorem finish_of_isFinished (finished : renderer.IsFinished template rendered text) :
    renderer.finish template rendered = pure text := by
  unfold IsFinished at finished
  unfold finish
  cases found : renderer.registry.registry.encoder? template with
  | none =>
    rw [found] at finished
    rw [finished]
    rfl
  | some encoder =>
    rw [found] at finished
    have readable : (Output.encoded (Utf8.encode text.toList)).text? = .ok text := by
      rw [Output.text?,Utf8.decode_encode,Except.map,String.ofList_toList]
    simp [finished,readable]

/-- With built-in encoders every rendered value has a text. -/
theorem exists_isFinished (builtIn : renderer.registry.registry.BuiltIn) (template : String)
    (rendered : Rendered) : ∃ text, renderer.IsFinished template rendered text := by
  unfold IsFinished
  cases found : renderer.registry.registry.encoder? template with
  | none => exact ⟨rendered.text,rfl⟩
  | some encoder =>
    obtain ⟨format,-,bound⟩ := Option.bind_eq_some_iff.mp found
    obtain ⟨kind,rfl⟩ := builtIn format encoder bound
    obtain ⟨text,written⟩ := kind.exists_write rendered
    refine ⟨String.ofList text,?_⟩
    rw [String.toList_ofList]
    exact EncoderKind.encode_of_write written

/-- Where all encoders are built-in ones, a template that is rendered has a text too, and nothing
else is called for it; no error is added to those of rendering. No rendered value is without bytes
that are text: its rows are as wide as its header, and its elements can have their names. -/
theorem finished_of_plain (builtIn : renderer.registry.registry.BuiltIn) :
    (∀ depth view template a rendered,
      (renderer.runPlain depth view template a).outcome = .answer rendered →
        ∃ text, renderer.IsFinished template rendered text ∧
          renderer.runText depth view template a =
            ⟨(renderer.runPlain depth view template a).steps,.answer text⟩) ∧
    (∀ depth view template a error,
      (renderer.runText depth view template a).outcome = .error error ↔
        (renderer.runPlain depth view template a).outcome = .error error) ∧
    (∀ (kind : EncoderKind) rendered, ∃ text, kind.encode rendered = .ok (Utf8.encode text) ∧
      Utf8.decode (Utf8.encode text) = .ok text) ∧
    ∀ value, (∀ row ∈ (Csv.flatten value).rows,
        row.length = (Csv.flatten value).headers.length) ∧
      ∀ name ∈ Xml.memberNames (Xml.documentMembers (Xml.sanitized value)),
        Xml.isName name.toList = true := by
  refine ⟨?_,?_,?_,?_⟩
  · intro depth view template a rendered answered
    obtain ⟨text,finished⟩ := exists_isFinished builtIn template rendered
    refine ⟨text,finished,?_⟩
    rw [runText_eq,Run.bind_of_answer answered,finish_of_isFinished finished]
    exact congrArg (Run.mk · (.answer text)) (List.append_nil _)
  · intro depth view template a error
    rw [runText_eq,Run.outcome_bind_eq_error_iff]
    refine or_iff_left ?_
    rintro ⟨rendered,-,failed⟩
    obtain ⟨text,finished⟩ := exists_isFinished builtIn template rendered
    rw [finish_of_isFinished finished] at failed
    contradiction
  · intro kind rendered
    obtain ⟨text,written⟩ := kind.exists_write rendered
    exact ⟨text,EncoderKind.encode_of_write written,Utf8.decode_encode text⟩
  · intro value
    refine ⟨fun row member => ?_,Xml.isName_of_mem_documentMembers value⟩
    exact Csv.length_of_mem_records (List.mem_cons_of_mem _ member)

def sheetView : View :=
  { View.bare "Sheets" (by decide) .empty none with
    templates := KeyMap.empty.insert "rows.txt" (.data (.constant Csv.quoting)) }

/-- The format of the template is bound to the encoder of another, and one format to none. -/
def sheets : Renderer :=
  let settings : Registry.Settings :=
    { formatEncoders := (KeyMap.empty.insert "txt" (some .csv)).insert "html" none }
  holding ⟨0,.build settings.changes⟩ [sheetView]

theorem finished_of_plain_sheets :
    sheets.registry.registry.BuiltIn ∧
    (sheets.runPlain 1 "Sheets" "rows.txt" .empty).outcome = .answer (.data Csv.quoting) ∧
    ∃ text, EncoderKind.csv.encode (.data Csv.quoting) = .ok (Utf8.encode text.toList) ∧
      (sheets.runText 1 "Sheets" "rows.txt" .empty).outcome = .answer text := by
  have builtIn : sheets.registry.registry.BuiltIn := Registry.builtIn_settings _
  have answered : (sheets.runPlain 1 "Sheets" "rows.txt" .empty).outcome =
      .answer (.data Csv.quoting) := rfl
  have bound : sheets.registry.registry.encoder? "rows.txt" = some (.builtIn .csv) := by
    have format : Naming.format? "rows.txt" = some "txt" := by decide +kernel
    rw [Registry.encoder?,format]
    simp [sheets,holding,Registry.build,Registry.Settings.changes]
  obtain ⟨finished,-⟩ := finished_of_plain builtIn
  obtain ⟨text,isFinished,run⟩ := finished 1 "Sheets" "rows.txt" .empty _ answered
  rw [IsFinished,bound] at isFinished
  exact ⟨builtIn,answered,text,isFinished,by rw [run]⟩

end Renderer

end ViewTemplates
