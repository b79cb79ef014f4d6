import ViewTemplates.Rendering.Run
import ViewTemplates.View.Basic

/-! Rendering a template of one view, without a layout. -/
namespace ViewTemplates.View

def undefined (view : View) (template : String) : RenderError :=
  .templateUndefined view.name template view.root view.pattern view.templateNames

/-- Renders a template that is missing. A soft request for it has no answer; the hook is called
once at most for it on the way to an answer. -/
def renderMissing (perform : (call : Call) → Run call.Answer) (view : View) (template : String)
    (assigns : Assigns) : Run (Option Rendered) :=
  let ref : TemplateRef := ⟨view.name,template⟩
  if assigns.softRequest = some ref then
    (pure none : Run (Option Rendered)).inside fun _ => .missed ref assigns
  else match assigns.addGuard? ref, view.notFound with
    | some guarded, some hook =>
      some <$> (((hook template guarded).run perform).inside (.hook ref guarded))
    | _, _ => (Run.fail (view.undefined template)).inside fun _ => .missed ref assigns

/-- Renders a template without a layout: by a clause, or else the compiled template, or else the
hook. -/
def renderAlone (perform : (call : Call) → Run call.Answer) (view : View) (template : String)
    (assigns : Assigns) : Run (Option Rendered) :=
  let ref : TemplateRef := ⟨view.name,template⟩
  match view.clauses.find? template with
  | some clause => some <$> (((clause assigns).run perform).inside (.clause ref assigns))
  | none =>
    match view.templates.find? template with
    | some compiled =>
      some <$> ((Run.ofExcept (compiled.render assigns)).inside fun _ => .template ref assigns)
    | none => view.renderMissing perform template assigns

end ViewTemplates.View
