import ViewTemplates.Jinja.Filter
import ViewTemplates.KeyMap

/-! The state of a rendering: scopes, what macros have captured, the loops begun so far, and the
escaping in force. -/
namespace ViewTemplates.Jinja

/-- What can be known of a loop. A recursive loop can be entered again. -/
structure LoopState where
  index : Nat
  length : Nat
  depth : Nat
  before : Value
  after : Value
  changed : Option (List Value)
  recursion : Option (Target × List Stmt)

def LoopState.value (l : LoopState) (identity : Nat) : Value :=
  .loop identity l.index l.length l.depth l.before l.after

/-- A scope: its own names, the number of its loop if it is one, where a macro's body finds the
names that the macro has captured, and where the macros defined in the scope find theirs. -/
structure Frame where
  locals : Entries Value := []
  loop : Option Nat := none
  captured : Option Nat := none
  captures : Option Nat := none

/-- The scopes, innermost first, what macros have captured, all loops begun, the number of objects
made, the depth of the scopes that are set aside, and the escaping in force. -/
structure Machine where
  frames : List Frame
  captures : Array (Entries Value)
  loops : Array LoopState
  objects : Nat
  outerDepth : Nat
  escaping : Escaping

abbrev Run (α : Type) := StateT Machine (Except Fault) α

/-- What does not change in a rendering: the name, statements and blocks of the template, the
escaping that its name asks for, the values it is rendered for, the values known everywhere, and the
text that a filter applies to. -/
structure Env where
  name : String
  body : List Stmt
  blocks : List (String × Bool × List Stmt)
  escaping : Escaping
  values : Entries Value
  globals : Entries Value
  input : Value

namespace Machine

def depthLimit : Nat := 500

def depth (m : Machine) : Nat := m.outerDepth + m.frames.length

/-- A loop as it is now; other values do not change. -/
def current (m : Machine) (value : Value) : Value :=
  match value with
  | .loop identity _ _ _ _ _ => (m.loops[identity]?.map (·.value identity)).getD value
  | value => value

end Machine

namespace Run

def fail (fault : Fault) : Run α := fun _ => .error fault

def ofResult (result : Except Fault α) : Run α := fun m => result.map fun a => (a,m)

def ofOption (result : Option α) (fault : Fault) : Run α :=
  match result with
  | some a => pure a
  | none => fail fault

def made (value : Value) : Run Value := fun m =>
  let (value,objects) := value.numbered m.objects
  .ok (value,{ m with objects := objects })

def inFrame? (m : Machine) (frame : Frame) (name : String) : Option Value :=
  match frame.locals.find? name with
  | some v => some v
  | none =>
    match (if name = "loop" then frame.loop else none) with
    | some identity => m.loops[identity]?.map (·.value identity)
    | none => (frame.captured.bind (m.captures[·]?)).bind (·.find? name)

/-- The value of a name in the innermost scope that has it; below all scopes are the values of the
rendering. -/
def lookup? (env : Env) (name : String) : Run (Option Value) := do
  let m ← get
  match m.frames.findSome? fun frame => inFrame? m frame name with
  | some v => pure (some (m.current v))
  | none =>
    match (env.values.find? name).or (env.globals.find? name) with
    | some v => pure (some v)
    | none => pure (if name = "range" then some (.builtin name) else none)

/-- Binds a name in the innermost scope, and for the macros defined there. -/
def store (name : String) (value : Value) : Run Unit := do
  let m ← get
  match m.frames with
  | [] => pure ()
  | frame :: rest =>
    let captures := match frame.captures with
      | some i => m.captures.modify i (·.insert name value)
      | none => m.captures
    let frame := { frame with locals := frame.locals.insert name value }
    set { m with frames := frame :: rest, captures := captures }

def inScope (frame : Frame) (action : Run α) : Run α := do
  let m ← get
  if Machine.depthLimit < m.depth + 1 then fail .tooDeep
  else
    set { m with frames := frame :: m.frames }
    let result ← action
    modify fun m => { m with frames := m.frames.tail }
    pure result

def withEscaping (escaping : Escaping) (action : Run α) : Run α := do
  let before := (← get).escaping
  modify fun m => { m with escaping := escaping }
  let result ← action
  modify fun m => { m with escaping := before }
  pure result

def deeper (by_ : Nat) (action : Run α) : Run α := do
  let m ← get
  if Machine.depthLimit < m.depth + by_ then fail .tooDeep
  else
    set { m with outerDepth := m.outerDepth + by_ }
    let result ← action
    modify fun after => { after with outerDepth := m.outerDepth }
    pure result

/-- Runs a macro's body in scopes of its own, which begin with what the macro has captured. A call
is as deep as six scopes. -/
def inMacro (frame : Frame) (action : Run α) : Run α := do
  let m ← get
  if Machine.depthLimit < m.depth + 6 then fail .tooDeep
  else
    set { m with frames := [frame], outerDepth := m.depth + 5 }
    let result ← action
    modify fun after => { after with frames := m.frames, outerDepth := m.outerDepth }
    pure result

def captured (text : List Char) : Run Value := do
  pure (.string ((← get).escaping == .markup) text)

/-- Begins a loop; the answer is its number. -/
def newLoop (l : LoopState) : Run Nat := do
  let m ← get
  set { m with loops := m.loops.push l }
  pure m.loops.size

def changeLoop (identity : Nat) (change : LoopState → LoopState) : Run Unit :=
  modify fun m => { m with loops := m.loops.modify identity change }

def loopNumber? : Run (Option Nat) := do
  pure ((← get).frames.findSome? (·.loop))

def currentLoop : Run (Option LoopState) := do
  let number ← loopNumber?
  pure (number.bind ((← get).loops[·]?))

/-- Forgets the names of the innermost scope; macros that have captured them keep them. -/
def clearLocals : Run Unit := modify fun m =>
  match m.frames with
  | [] => m
  | frame :: rest => { m with frames := { frame with locals := [] } :: rest }

/-- Where the macros of the innermost scope find names; `names` are given their present values
unless they are there already. -/
def capture (env : Env) (names : List String) : Run Nat := do
  let m ← get
  let i ← match m.frames.head?.bind (·.captures) with
    | some i => pure i
    | none =>
      let i := m.captures.size
      modify fun m =>
        { m with
          captures := m.captures.push []
          frames := match m.frames with
            | [] => []
            | frame :: rest => { frame with captures := some i } :: rest }
      pure i
  for name in names do
    let present ← get
    if ((present.captures[i]?).bind (·.find? name)).isNone then
      let value := (← lookup? env name).getD .undefined
      modify fun m => { m with captures := m.captures.modify i (·.insert name value) }
  pure i

end Run

end ViewTemplates.Jinja
