/-! Why the rendering of a template fails. -/
namespace ViewTemplates.Jinja

inductive Fault
  /-- A part was asked of a value that is undefined. -/
  | undefinedSubject
  | badOperation
  | unknownFilter (name : String)
  | unknownTest (name : String)
  | unknownFunction (name : String)
  | unknownTemplate
  /-- A block that another template has to give is to be rendered. -/
  | requiredBlock (name : String)
  | tooDeep
  /-- The evaluation used up its fuel. -/
  | exhausted
deriving DecidableEq, Repr

end ViewTemplates.Jinja
