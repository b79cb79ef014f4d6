import ViewTemplates.Proofs.FilledText
import ViewTemplates.Proofs.Placeholders
import ViewTemplates.Proofs.PrintedNames

/-! The two engines of markup side by side. A text with names in it is filled alike by both: they
escape under the same names, a string that a name is bound to is written as itself or as markup, and
inner content that is safe is never escaped again. -/
namespace ViewTemplates

namespace Text

theorem trim_of_visible {s : List Char} (visible : ∀ c ∈ s, isBlank c = false) : trim s = s := by
  have kept {t : List Char} (visible : ∀ c ∈ t, isBlank c = false) : t.dropWhile isBlank = t :=
    List.dropWhile_eq_self_iff.mpr fun nonempty => by simp [visible _ (List.getElem_mem nonempty)]
  rw [trim,trimStart,kept visible,trimEnd,kept (by simpa using visible),List.reverse_reverse]

theorem getLast?_pieces {separator : Char} {after : List Char} (absent : separator ∉ after)
    (before : List Char) :
    (pieces separator (before ++ separator :: after)).getLast? = some after := by
  rw [pieces_append,pieces_of_not_mem absent,List.getLast?_concat]

end Text

namespace Jinja

/-- The names after which the Jinja engine escapes end in a format that the other engine escapes,
unless they end in a format of templates. -/
theorem escapingFor_of_format? {name format : String} (named : Naming.format? name = some format)
    (other : format ∉ ["j2","jinja2","jinja"]) :
    escapingFor name = if format ∈ ["html","htm","xml"] then .markup else .none := by
  obtain ⟨-,undotted,-,front,ended⟩ := Naming.format?_eq_some_iff.mp named
  have whole : name.toList = front.toList ++ '.' :: format.toList := by simp [ended]
  have last := Text.getLast?_pieces undotted front.toList
  -- An ending of templates would be taken off first, but the format is none.
  have kept : ∀ word ∈ ["j2","jinja2","jinja"],
      Text.dropEnding? ('.' :: word.toList) name.toList = none := by
    intro word template
    have absent : '.' ∉ word.toList := by
      revert word
      decide
    have differs : ¬('.' :: word.toList <:+ name.toList) := by
      rintro ⟨stem,same⟩
      have ending := Text.getLast?_pieces absent stem
      rw [same,whole,last] at ending
      obtain rfl := String.toList_inj.mp (Option.some.inj ending)
      exact other template
    simp [Text.dropEnding?,differs]
  have endings : [".j2",".jinja2",".jinja"].map String.toList =
      ["j2","jinja2","jinja"].map ('.' :: ·.toList) := by decide
  have unchanged : ([".j2",".jinja2",".jinja"].map String.toList).findSome?
      (Text.dropEnding? · name.toList) = none := by
    rwa [List.findSome?_eq_none_iff,endings,List.forall_mem_map]
  simp only [escapingFor,unchanged,Option.getD_none]
  rw [whole,last]
  simp

/-- The text of a statement that has one at once, where `write` says what stands for a name. -/
def shown (write : String → List Char) : Stmt → List Char
  | .text s => s.toList
  | .emit (.variable name) => write name
  | _ => []

namespace Run

variable {α β : Type} {m after : Machine}

theorem pure_eq (a : α) (m : Machine) : (pure a : Run α) m = .ok (a,m) := rfl

theorem get_eq (m : Machine) : (get : Run Machine) m = .ok (m,m) := rfl

/-- What follows an action that succeeds takes its value and its state. -/
theorem bind_of_ok {action : Run α} {a : α} (done : action m = .ok (a,after)) (next : α → Run β) :
    (action >>= next) m = next a after := by
  change (action m >>= fun ended => next ended.1 ended.2) = next a after
  rw [done]
  rfl

theorem mapM_of_forall {action : α → Run β} {result : α → β} {l : List α}
    (each : ∀ a ∈ l, action a m = .ok (result a,m)) : l.mapM action m = .ok (l.map result,m) := by
  induction l with
  | nil => rfl
  | cons a l ih =>
    obtain ⟨here,later⟩ := List.forall_mem_cons.mp each
    rw [List.mapM_cons,bind_of_ok here,bind_of_ok (ih later),pure_eq,List.map_cons]

/-- A name that no scope has is looked up in the values of the rendering. -/
theorem lookup?_of_values {env : Env} {name : String} {safe : Bool} {text : List Char}
    (frames : m.frames = [{}]) (bound : env.values.find? name = some (.string safe text)) :
    lookup? env name m = .ok (some (.string safe text),m) := by
  have outside : m.frames.findSome? (inFrame? m · name) = none := by
    simp [frames,inFrame?,Entries.find?]
  rw [lookup?,bind_of_ok (get_eq m)]
  simp only [outside,bound,Option.some_or,pure_eq]

end Run

theorem exec_text (fuel : Nat) (env : Env) (m : Machine) (s : String) :
    exec (fuel + 1) env (.text s) m = .ok (s.toList,m) := by
  rw [exec,Run.pure_eq]

theorem eval_variable {env : Env} {m : Machine} {name : String} {v : Value}
    (found : Run.lookup? env name m = .ok (some v,m)) (fuel : Nat) :
    eval (fuel + 1) env (.variable name) m = .ok (v,m) := by
  rw [eval,Run.bind_of_ok found,Run.pure_eq,Option.getD_some]

theorem exec_emit {env : Env} {m : Machine} {name : String} {v : Value}
    (found : Run.lookup? env name m = .ok (some v,m)) (fuel : Nat) :
    exec (fuel + 2) env (.emit (.variable name)) m = .ok (written m.escaping v,m) := by
  rw [exec,Run.bind_of_ok (eval_variable found fuel),Run.bind_of_ok (Run.get_eq m),Run.pure_eq]

theorem execAll_of_forall {env : Env} {m : Machine} {body : List Stmt} {fuel : Nat}
    {text : Stmt → List Char} (each : ∀ s ∈ body, exec fuel env s m = .ok (text s,m)) :
    execAll (fuel + 1) env body m = .ok ((body.map text).flatten,m) := by
  rw [execAll,Run.bind_of_ok (Run.mapM_of_forall each),Run.pure_eq]

namespace Template

/-- Strings are no objects and have no number. -/
theorem find?_numbered {values : Entries Value} {name : String} {safe : Bool} {text : List Char}
    (bound : values.find? name = some (.string safe text)) (n : Nat) :
    (numbered values n).1.find? name = some (.string safe text) := by
  induction values generalizing n with
  | nil => contradiction
  | cons entry rest ih =>
    obtain ⟨key,value⟩ := entry
    simp only [Entries.find?,numbered] at bound ⊢
    split at bound
    next same =>
      obtain rfl := Option.some.inj bound
      simp [same,Value.numbered]
    next differs =>
      simp only [differs,if_false]
      exact ih bound _

theorem render_eq (t : Template) (values : Entries Value) :
    t.render values = (execAll t.fuel (t.env (numbered values 0).1) t.body
      (t.start (numbered values 0).2)).map (·.1) :=
  rfl

end Template

end Jinja

namespace Form

theorem flatten_shown (write : String → List Char) (form : Form) :
    (form.stmts.map (Jinja.shown write)).flatten = form.filled write := by
  have text (s : List Char) :
      ((Jinja.Parse.textStmts s).map (Jinja.shown write)).flatten = s := by
    unfold Jinja.Parse.textStmts
    split
    next empty => simpa using empty.symm
    next => simp [Jinja.shown]
  obtain ⟨parts,last⟩ := form
  induction parts with
  | nil => exact text last
  | cons part rest ih =>
    simp only [stmts,List.flatMap_cons,List.map_append,List.flatten_append] at ih ⊢
    rw [filled_cons,← ih,text]
    simp [Jinja.shown]

/-- A form whose names are bound to strings renders to its text with these strings in it. -/
theorem render_of_stmts {template : Jinja.Template} {form : Form}
    (body : template.body = form.stmts) {values : Entries Jinja.Value}
    {write : String → List Char}
    (bound : ∀ part ∈ form.parts, ∃ safe text, values.find? part.2 = some (.string safe text) ∧
      write part.2 = Jinja.written (Jinja.escapingFor template.name) (.string safe text)) :
    template.render values = .ok (form.filled write) := by
  obtain ⟨fuel,enough⟩ : ∃ fuel, template.fuel = fuel + 3 := by
    refine ⟨template.fuel - 3,?_⟩
    simp only [Jinja.Template.fuel,Jinja.Machine.depthLimit]
    omega
  have each : ∀ s ∈ form.stmts, Jinja.exec (fuel + 2)
      (template.env (Jinja.Template.numbered values 0).1) s
      (template.start (Jinja.Template.numbered values 0).2) =
      .ok (Jinja.shown write s,template.start (Jinja.Template.numbered values 0).2) := by
    intro s member
    rcases mem_stmts member with ⟨text,rfl⟩ | ⟨part,inParts,rfl⟩
    · exact Jinja.exec_text ..
    · obtain ⟨safe,text,found,written⟩ := bound part inParts
      rw [Jinja.shown,written]
      have value := Jinja.Template.find?_numbered found 0
      exact Jinja.exec_emit (Jinja.Run.lookup?_of_values rfl value) fuel
  have run := Jinja.execAll_of_forall each
  rw [flatten_shown] at run
  rw [Jinja.Template.render_eq,enough,body,run,Except.map]

end Form

/-! ### Text with placeholders -/

theorem Jinja.isBlank_of_isWordChar {c : Char} (inWord : isWordChar c = true) :
    Text.isBlank c = false := by
  simp only [isWordChar,Text.isAsciiAlphanumeric,Text.isAsciiUpper,Text.isAsciiLower,
    Text.isAsciiDigit,Bool.or_eq_true,Bool.and_eq_true,decide_eq_true_eq,beq_iff_eq,Char.le_def,
    UInt32.le_iff_toNat_le] at inWord
  have between : 48 ≤ c.toNat ∧ c.toNat ≤ 122 := by
    rcases inWord with ((⟨low,high⟩ | ⟨low,high⟩) | ⟨low,high⟩) | rfl
    · exact ⟨le_trans (by decide) low,le_trans high (by decide)⟩
    · exact ⟨le_trans (by decide) low,le_trans high (by decide)⟩
    · exact ⟨le_trans (by decide) low,le_trans high (by decide)⟩
    · decide
  simp only [Text.isBlank,Bool.or_eq_false_iff,Bool.and_eq_false_iff,decide_eq_false_iff_not,
    beq_eq_false_iff_ne]
  omega

theorem Jinja.IsVariable.not_mem {name : String} (named : IsVariable name) {c : Char}
    (outside : Jinja.isWordChar c = false) : c ∉ name.toList := fun member =>
  Bool.false_ne_true (outside.symm.trans (named.isWordChar c member))

namespace Segment

theorem doubled_of_plain {text : List Char} (opens : '{' ∉ text) (closes : '}' ∉ text) :
    doubled text = text := by
  have single : ∀ c ∈ text, (if c = '{' ∨ c = '}' then [c,c] else [c]) = [c] := by
    intro c member
    have plain : ¬(c = '{' ∨ c = '}') := by
      rintro (rfl | rfl) <;> contradiction
    exact if_neg plain
  rw [doubled,List.flatMap_congr single,List.flatMap_singleton']

theorem parseFrom_of_plain {text : List Char} (plain : '{' ∉ text ∧ '}' ∉ text) (lenient : Bool)
    (rest : List Char) :
    parseFrom lenient [] (text ++ rest) = parseFrom lenient text.reverse rest := by
  rw [← List.append_nil text.reverse,← parseFrom_doubled,doubled_of_plain plain.1 plain.2]

theorem flush_eq_append (collected : List Char) (segments : List Segment) :
    flush collected segments = flush collected [] ++ segments := by
  unfold flush
  split <;> rfl

theorem renderAll_flush (escape : Bool) (a : Assigns) (text : List Char) :
    renderAll escape a (flush text.reverse []) = text := by
  unfold flush
  split
  next empty => simpa [renderAll] using empty.symm
  next => simp [renderAll,render]

theorem isRaw_of_isVariable {name : String} (named : Jinja.IsVariable name) :
    IsRaw name.toList := by
  obtain ⟨first,rest,whole,starts,-⟩ := named.word
  have visible := Jinja.isBlank_of_isWordChar (Jinja.isWordChar_of_isWordStart starts)
  have single : '{' ∉ name.toList := named.not_mem (by decide)
  exact ⟨named.not_mem (by decide),fun opens => single (List.mem_of_head? opens),first,
    by simp [whole],visible⟩

end Segment

namespace Form

def braced (name : String) : List Char := '{' :: name.toList ++ ['}']

def segments (form : Form) : List Segment :=
  form.parts.flatMap (fun part => Segment.flush part.1.reverse [] ++
    [.placeholder part.2.toList part.2.toList]) ++ Segment.flush form.last.reverse []

theorem parseFrom_filled {form : Form} (proper : form.Proper) (lenient : Bool) :
    Segment.parseFrom lenient [] (form.filled braced) = .ok form.segments := by
  obtain ⟨parts,last⟩ := form
  induction parts with
  | nil =>
    have read := Segment.parseFrom_of_plain proper.plainLast lenient []
    rw [List.append_nil,Segment.parseFrom_nil] at read
    rw [filled_nil,read]
    simp [segments]
  | cons part rest ih =>
    obtain ⟨text,name⟩ := part
    have named := proper.named _ List.mem_cons_self
    have visible := Text.trim_of_visible fun c member =>
      Jinja.isBlank_of_isWordChar (named.isWordChar c member)
    have whole : filled braced ⟨(text,name) :: rest,last⟩ =
        text ++ ('{' :: name.toList ++ '}' :: filled braced ⟨rest,last⟩) := by
      simp [filled_cons,braced]
    rw [whole,Segment.parseFrom_of_plain (proper.plain _ List.mem_cons_self),
      Segment.parseFrom_placeholder (Segment.isRaw_of_isVariable named),ih proper.tail,visible]
    simp [Except.map,Segment.flush_eq_append text.reverse (_ :: _),segments]

theorem renderAll_segments {form : Form} {escape : Bool} {a : Assigns}
    {write : String → List Char}
    (writes : ∀ part ∈ form.parts,
      Segment.render escape a (.placeholder part.2.toList part.2.toList) = write part.2) :
    Segment.renderAll escape a form.segments = form.filled write := by
  have each : ∀ part ∈ form.parts, Segment.renderAll escape a (Segment.flush part.1.reverse [] ++
      [.placeholder part.2.toList part.2.toList]) = part.1 ++ write part.2 := by
    intro part member
    have text := Segment.renderAll_flush escape a part.1
    simp only [Segment.renderAll] at text ⊢
    rw [List.flatMap_append,text,List.flatMap_singleton,writes part member]
  have last := Segment.renderAll_flush escape a form.last
  simp only [Segment.renderAll,segments,filled] at each last ⊢
  rw [List.flatMap_append,last,List.flatMap_assoc,List.flatMap_congr each]

end Form

/-! ### What names are bound to -/

/-- What stands under a name: the inner content under its own, where it hides a value, and the
values under theirs. -/
inductive Assigns.Binds (a : Assigns) : String → Resolved → Prop
  | value {name : String} {data : Json} (bound : a.get? name = some data)
      (shown : name = innerContentKey → a.innerContent = none) : Binds a name (.value data)
  | content {data : Json} (bound : a.innerContent = some (.data data)) :
      Binds a innerContentKey (.value data)
  | safe {text : String} (bound : a.innerContent = some (.safe text)) :
      Binds a innerContentKey (.safe text)

variable {a : Assigns} {name text : String}

theorem Assigns.Binds.resolve? {found : Resolved} (binds : a.Binds name found)
    (undotted : '.' ∉ name.toList) : a.resolve? name.toList = some found := by
  have cut := Text.pieces_of_not_mem undotted
  cases binds with
  | @value name data bound shown =>
    have hidden : (if name = innerContentKey then a.innerContent else none) = none := by
      split
      next same => exact shown same
      next => rfl
    simp [Assigns.resolve?,cut,String.ofList_toList,hidden,bound,Path.follow?]
  | content bound => simp [Assigns.resolve?,cut,String.ofList_toList,bound,Path.follow?]
  | safe bound => simp [Assigns.resolve?,cut,String.ofList_toList,bound]

theorem Template.find?_context_of_text (binds : a.Binds name (.value (.string text))) :
    (context a).entries.find? name = some (.string false text.toList) := by
  change (context a).find? name = _
  cases binds with
  | value bound shown =>
    have data : (a.values.map Jinja.Value.ofJson).find? name =
        some (.string false text.toList) := by
      rw [KeyMap.find?_map,show a.values.find? name = _ from bound]
      rfl
    unfold context
    split
    next => exact data
    all_goals
      next _ content =>
        have differs : name ≠ Assigns.innerContentKey := fun same => by simp [shown same] at content
        rw [KeyMap.find?_insert,if_neg differs,data]
  | content bound => simp [context,bound,Jinja.Value.ofJson]

theorem Template.find?_context_of_safe (bound : a.innerContent = some (.safe text)) :
    (context a).entries.find? Assigns.innerContentKey = some (.string true text.toList) := by
  change (context a).find? _ = _
  simp [context,bound]

theorem Engine.compile_jinja_of_parse? {source : String} {body : List Jinja.Stmt}
    (read : Jinja.parse? source = some body) (globals : KeyMap String) (name : String) :
    ∃ template, (Engine.jinja globals).compile name source = .ok (.jinja template) ∧
      template.name = name ∧ template.body = body := by
  obtain ⟨template,made,parts⟩ : ∃ template, Jinja.Template.ofSource? globals name source =
      some template ∧ template.name = name ∧ template.body = body := by
    simp [Jinja.Template.ofSource?,read]
  refine ⟨template,?_,parts⟩
  unfold Engine.compile
  simp only [made]

def Engine.Renders (engine : Engine) (name source : String) (a : Assigns) (text : String) : Prop :=
  ∃ template, engine.compile name source = .ok template ∧ template.render a = .ok (.safe text)

namespace Form

variable {form : Form} {source : String} {write : String → List Char}

theorem renders_simple (proper : form.Proper) (whole : source.toList = form.filled braced)
    (writes : ∀ part ∈ form.parts,
      Segment.render (Naming.isMarkup name) a (.placeholder part.2.toList part.2.toList) =
        write part.2) :
    Engine.simple.Renders name source a (String.ofList (form.filled write)) := by
  have read : Segment.parse source.toList = .ok form.segments := by
    rw [whole]
    exact parseFrom_filled proper false
  refine ⟨_,Engine.compile_simple_eq_ok_iff.mpr ⟨_,read,rfl⟩,?_⟩
  rw [Template.render_simple,renderAll_segments writes]

theorem renders_jinja (globals : KeyMap String) (proper : form.Proper) (inLine : ¬form.EndsInLine)
    (whole : source.toList = form.filled Jinja.printing)
    (bound : ∀ part ∈ form.parts, ∃ safe text,
      (Template.context a).entries.find? part.2 = some (.string safe text) ∧
      write part.2 = Jinja.written (Jinja.escapingFor name) (.string safe text)) :
    (Engine.jinja globals).Renders name source a (String.ofList (form.filled write)) := by
  obtain ⟨template,compiled,rfl,body⟩ :=
    Engine.compile_jinja_of_parse? (parse?_filled proper inLine whole) globals name
  have rendered := render_of_stmts body bound
  exact ⟨_,compiled,by rw [Template.render,rendered]⟩

end Form

/-- Both engines of markup make the same of a text with one name in it. -/
structure RenderAlike (globals : KeyMap String) (name before shown after : String) (a : Assigns)
    (text : String) : Prop where
  simple : Engine.simple.Renders name (before ++ "\x7b" ++ shown ++ "\x7d" ++ after) a
    (before ++ text ++ after)
  jinja : (Engine.jinja globals).Renders name
    (before ++ "\x7b\x7b " ++ shown ++ " \x7d\x7d" ++ after) a (before ++ text ++ after)

/-- A name of which both engines know what to write is written alike. -/
theorem renderAlike_of_bound {before shown after : String} {globals : KeyMap String}
    (plainBefore : '{' ∉ before.toList ∧ '}' ∉ before.toList)
    (plainAfter : '{' ∉ after.toList ∧ '}' ∉ after.toList)
    (inLine : after.toList.getLast? ≠ some '\n' ∧ after.toList.getLast? ≠ some '\r')
    (named : Jinja.IsVariable shown)
    (simple : Segment.render (Naming.isMarkup name) a
      (.placeholder shown.toList shown.toList) = text.toList)
    {safe : Bool} {value : List Char}
    (bound : (Template.context a).entries.find? shown = some (.string safe value))
    (jinja : Jinja.written (Jinja.escapingFor name) (.string safe value) = text.toList) :
    RenderAlike globals name before shown after a text := by
  let form : Form := ⟨[(before.toList,shown)],after.toList⟩
  have proper : form.Proper :=
    ⟨by simpa [form] using plainBefore,by simpa [form] using named,plainAfter⟩
  have whole : String.ofList (form.filled fun _ => text.toList) = before ++ text ++ after := by
    simp [form,Form.filled,String.ofList_append,String.append_assoc]
  constructor
  · rw [← whole]
    refine Form.renders_simple proper (by simp [form,Form.filled,Form.braced]) ?_
    simpa [form] using simple
  · rw [← whole]
    refine Form.renders_jinja globals proper (not_or.mpr inLine)
      (by simp [form,Form.filled,Jinja.printing]) ?_
    exact List.forall_mem_singleton.mpr ⟨safe,value,bound,jinja.symm⟩

theorem isVariable_innerContentKey : Jinja.IsVariable Assigns.innerContentKey :=
  ⟨⟨_,_,rfl,by decide,List.all_eq_true.mp (by decide)⟩,by decide⟩

/-- The engine of text with placeholders and the Jinja engine make the same of a text with one name
in it, under every name that ends in a format. Text is escaped in formats of markup and safe inner
content is put in as it is, whatever the values hold under its key. -/
theorem markup_engines_agree {name format p q : String} (named : Naming.format? name = some format)
    (other : format ∉ ["j2","jinja2","jinja"]) (plainBefore : '{' ∉ p.toList ∧ '}' ∉ p.toList)
    (plainAfter : '{' ∉ q.toList ∧ '}' ∉ q.toList)
    (inLine : q.toList.getLast? ≠ some '\n' ∧ q.toList.getLast? ≠ some '\r')
    (globals : KeyMap String) (a : Assigns) :
    (∀ v text, Jinja.IsVariable v → a.Binds v (.value (.string text)) →
      RenderAlike globals name p v q a
        (if format ∈ ["html","htm","xml"] then Markup.escapeText text else text)) ∧
    ∀ text, a.innerContent = some (.safe text) →
      RenderAlike globals name p Assigns.innerContentKey q a text := by
  have escaping := Jinja.escapingFor_of_format? named other
  have markup : Naming.isMarkup name = decide (format ∈ ["html","htm","xml"]) := by
    rw [Bool.eq_iff_iff,Naming.isMarkup_iff,decide_eq_true_eq]
    simp [named]
  refine ⟨fun v text v_named binds => ?_,fun text content => ?_⟩
  · have leads := binds.resolve? (v_named.not_mem (by decide))
    refine renderAlike_of_bound plainBefore plainAfter inLine v_named ?_
      (Template.find?_context_of_text binds) ?_
    · simp only [Segment.render,leads,markup,Segment.valueText,decide_eq_true_eq]
      split <;> simp [Markup.escapeText]
    · rw [escaping]
      split <;> simp [Jinja.written,Markup.escapeText,Jinja.Value.printed]
  · have leads := (Assigns.Binds.safe content).resolve? (by decide)
    refine renderAlike_of_bound plainBefore plainAfter inLine isVariable_innerContentKey ?_
      (Template.find?_context_of_safe content) ?_
    · simp only [Segment.render,leads]
    · rw [escaping]
      split <;> simp [Jinja.written,Jinja.Value.printed]

/-- Text with markup in it, and inner content that hides a value. -/
def agreedAssigns : Assigns :=
  (Assigns.ofList [("inner_content",.string "hidden"),("user",.string "<b>")]).setInnerContent
    (.safe "<hr>")

theorem markup_engines_agree_page :
    Naming.format? "page.html" = some "html" ∧
    agreedAssigns.Binds "user" (.value (.string "<b>")) ∧
    agreedAssigns.get? Assigns.innerContentKey = some (.string "hidden") ∧
    RenderAlike .empty "page.html" "<p>" "user" "</p>" agreedAssigns "&lt;b&gt;" ∧
    RenderAlike .empty "page.html" "<p>" Assigns.innerContentKey "</p>" agreedAssigns "<hr>" := by
  have format : Naming.format? "page.html" = some "html" := by cbv
  have binds : agreedAssigns.Binds "user" (.value (.string "<b>")) :=
    .value (by rfl) fun same => absurd same (by decide)
  obtain ⟨strings,contents⟩ := markup_engines_agree (p := "<p>") (q := "</p>") format (by decide)
    (by decide) (by decide) (by decide) .empty agreedAssigns
  have user : Jinja.IsVariable "user" :=
    ⟨⟨_,_,rfl,by decide,List.all_eq_true.mp (by decide)⟩,by decide⟩
  have written : (if "html" ∈ ["html","htm","xml"] then Markup.escapeText "<b>" else "<b>") =
      "&lt;b&gt;" := by cbv
  refine ⟨format,binds,by rfl,?_,contents _ rfl⟩
  rw [← written]
  exact strings "user" "<b>" user binds

end ViewTemplates
