import ViewTemplates.Yaml.ScalarText
import ViewTemplates.Yaml.Tag

/-! From text to tokens. Blocks are opened and closed by the columns where their entries begin, and
a key is recognised only at the colon after it, so its tokens are put in front of it then. -/
namespace ViewTemplates.Yaml

/-- A place where a key on one line may have begun. A key is required where the block mapping it
would belong to is already open. -/
structure KeyStart where
  required : Bool
  position : Nat
  index : Nat
  line : Nat
  column : Nat

/-- The state between two tokens. `keys` has an entry per open bracket and one for the block
context; `indents` are the columns of the blocks around the innermost one. -/
structure Scan where
  cursor : Cursor
  tokens : Array Token
  depth : Nat
  indent : Int
  indents : List Int
  keyAllowed : Bool
  keys : List (Option KeyStart)

namespace Scan

def ofText (s : List Char) : Scan := ⟨.ofText s,#[],0,-1,[],true,[none]⟩

def emit (s : Scan) (token : Token) : Scan := { s with tokens := s.tokens.push token }

def inFlow (s : Scan) : Bool := s.depth != 0

def moved (s : Scan) (cursor : Cursor) : Scan := { s with cursor := cursor }

def allow (s : Scan) (keyAllowed : Bool) : Scan := { s with keyAllowed := keyAllowed }

/-- Opens a block at a column beyond the current one; its token goes to `position`. -/
def openBlock (s : Scan) (column position : Nat) (token : Token) : Scan :=
  if s.inFlow || (column : Int) ≤ s.indent then s
  else
    { s with
      indents := s.indent :: s.indents
      indent := column
      tokens := s.tokens.insertIdxIfInBounds position token }

def closeBlocks (column : Int) : List Int → Int → Array Token → Int × List Int × Array Token
  | [], indent, tokens => (indent,[],tokens)
  | outer :: rest, indent, tokens =>
    if column < indent then closeBlocks column rest outer (tokens.push .blockEnd)
    else (indent,outer :: rest,tokens)

def closeTo (s : Scan) (column : Int) : Scan :=
  if s.inFlow then s
  else
    let (indent,indents,tokens) := closeBlocks column s.indents s.indent s.tokens
    { s with indent := indent, indents := indents, tokens := tokens }

/-- Forgets the possible key of the current level; a required one must not be left. -/
def dropKey (s : Scan) : Option Scan :=
  match s.keys with
  | some key :: rest => if key.required then none else some { s with keys := none :: rest }
  | _ => some s

def saveKey (s : Scan) : Option Scan :=
  if s.keyAllowed then do
    let s ← dropKey s
    let c := s.cursor
    let required := !s.inFlow && s.indent == (c.column : Int)
    let key : KeyStart := ⟨required,s.tokens.size,c.index,c.line,c.column⟩
    some { s with keys := some key :: s.keys.drop 1 }
  else some s

/-- A possible key lies on the current line and within reach, which is counted in bytes. -/
def KeyStart.isFresh (key : KeyStart) (c : Cursor) : Bool :=
  c.line ≤ key.line && c.index ≤ key.index + 1024

/-- Drops the possible keys that are out of reach, on any level. -/
def dropStale (s : Scan) : Option Scan :=
  if s.keys.any fun key => key.any fun k => k.required && !KeyStart.isFresh k s.cursor then none
  else some { s with keys := s.keys.map fun key => key.filter (KeyStart.isFresh · s.cursor) }

/-- Moves to the next token over blanks, comments and breaks. Tabs count as blanks where no key can
begin. A byte order mark at the start of a line is passed over, and takes a column. -/
def toToken (fuel : Nat) (s : Scan) : Scan :=
  match fuel with
  | 0 => s
  | fuel + 1 =>
    let c := s.cursor
    let c := if c.column = 0 ∧ c.peek.any (·.toNat == 0xFEFF) then c.skip 1 else c
    let c := c.skipWhile fun x => x == ' ' || (x == '\t' && (s.inFlow || !s.keyAllowed))
    let c := c.skipComment
    match c.takeBreak? with
    | none => s.moved c
    | some (_,next) =>
      toToken fuel { s with cursor := next, keyAllowed := s.keyAllowed || !s.inFlow }

/-- A token that ends every block, such as a document mark. -/
def atMargin (s : Scan) : Option Scan := do
  let s ← dropKey (s.closeTo (-1))
  some (s.allow false)

def openBracket (s : Scan) (token : Token) : Option Scan := do
  let s ← saveKey s
  some { s with
    keys := none :: s.keys, depth := s.depth + 1, keyAllowed := true
    cursor := s.cursor.skip 1, tokens := s.tokens.push token }

def closeBracket (s : Scan) (token : Token) : Option Scan := do
  let s ← dropKey s
  let s := if s.inFlow then { s with keys := s.keys.drop 1, depth := s.depth - 1 } else s
  some ((s.allow false).emit token |>.moved (s.cursor.skip 1))

def blockEntry (s : Scan) : Option Scan := do
  if !s.inFlow && !s.keyAllowed then none
  else
    let s := s.openBlock s.cursor.column s.tokens.size .blockSequenceStart
    let s ← dropKey s
    some ((s.allow true).emit .blockEntry |>.moved (s.cursor.skip 1))

def explicitKey (s : Scan) : Option Scan := do
  if !s.inFlow && !s.keyAllowed then none
  else
    let s := s.openBlock s.cursor.column s.tokens.size .blockMappingStart
    let s ← dropKey s
    some ((s.allow !s.inFlow).emit .key |>.moved (s.cursor.skip 1))

/-- The colon after a key. A possible key becomes one; without it the colon opens a mapping. -/
def keyValue (s : Scan) : Option Scan :=
  let after (s : Scan) := (s.emit .value).moved (s.cursor.skip 1)
  match s.keys with
  | some key :: rest =>
    let s := { s with
      tokens := s.tokens.insertIdxIfInBounds key.position .key, keys := none :: rest }
    some (after ((s.openBlock key.column key.position .blockMappingStart).allow false))
  | _ =>
    if !s.inFlow && !s.keyAllowed then none
    else
      let s := s.openBlock s.cursor.column s.tokens.size .blockMappingStart
      some (after (s.allow !s.inFlow))

def atom (s : Scan) (read : Cursor → Option (Token × Cursor)) : Option Scan := do
  let s ← saveKey s
  let (token,c) ← read s.cursor
  some ((s.allow false).emit token |>.moved c)

def quoted (s : Scan) (single : Bool) : Option Scan :=
  s.atom fun c => do
    let (text,c) ← quotedText (c.rest.length + 1) single (c.skip 1)
    some (.scalar false text,c)

def block (s : Scan) (literal : Bool) : Option Scan := do
  let s ← dropKey s
  let (text,c) ← blockText literal s.indent (s.cursor.skip 1)
  some ((s.allow true).emit (.scalar false text) |>.moved c)

def plain (s : Scan) : Option Scan := do
  let s ← saveKey s
  let c := s.cursor
  let (text,broken,c) ← plainText (c.rest.length + 1) s.inFlow (s.indent + 1) Gap.none c
  some ((s.allow broken).emit (.scalar true text) |>.moved c)

def startsPlain (inFlow : Bool) (x : Char) (next : Option Char) : Bool :=
  let isIndicator :=
    x == '-' || x == '?' || x == ':' || isFlowIndicator x || x == '#' || x == '&' || x == '*'
      || x == '!' || x == '|' || x == '>' || x == '\'' || x == '"' || x == '%' || x == '@'
      || x.toNat == 0x60
  (!isIndicator && !isBlankOrBreak x)
    || (x == '-' && !next.any fun n => n == ' ' || n == '\t')
    || (!inFlow && (x == '?' || x == ':') && !endsWord next)

def token (s : Scan) (x : Char) : Option Scan :=
  let c := s.cursor
  let next := c.peekAt 1
  if c.column = 0 ∧ x = '%' then do
    let s ← s.atMargin
    let (token,c) ← directive? s.cursor
    some ((s.emit token).moved c)
  else if c.atDocumentMark then do
    let s ← s.atMargin
    some ((s.emit (if x = '-' then .documentStart else .documentEnd)).moved (s.cursor.skip 3))
  else if x = '[' then s.openBracket .flowSequenceStart
  else if x = '{' then s.openBracket .flowMappingStart
  else if x = ']' then s.closeBracket .flowSequenceEnd
  else if x = '}' then s.closeBracket .flowMappingEnd
  else if x = ',' then do
    let s ← dropKey s
    some ((s.allow true).emit .flowEntry |>.moved (s.cursor.skip 1))
  else if x = '-' ∧ endsWord next then s.blockEntry
  else if x = '?' ∧ (s.inFlow ∨ endsWord next) then s.explicitKey
  else if x = ':' ∧ (s.inFlow ∨ endsWord next) then s.keyValue
  else if x = '*' then s.atom fun c => (anchorName? c).map fun p => (.aliasOf p.1,p.2)
  else if x = '&' then s.atom fun c => (anchorName? c).map fun p => (.anchor p.1,p.2)
  else if x = '!' then s.atom (tag? s.inFlow)
  else if x = '|' ∧ !s.inFlow then s.block true
  else if x = '>' ∧ !s.inFlow then s.block false
  else if x = '\'' then s.quoted true
  else if x = '"' then s.quoted false
  else if startsPlain s.inFlow x next then s.plain
  else none

/-- Reads all tokens. Every token takes a character, which bounds their number. -/
def run (fuel : Nat) (s : Scan) : Option (List Token) :=
  match fuel with
  | 0 => none
  | fuel + 1 => do
    let s := s.toToken (s.cursor.rest.length + 1)
    let s ← s.dropStale
    let s := s.closeTo s.cursor.column
    match s.cursor.peek with
    | none =>
      let s ← s.atMargin
      some s.tokens.toList
    | some x =>
      let s ← s.token x
      run fuel s

end Scan

def isTextChar (c : Char) : Bool :=
  let n := c.toNat
  n == 9 || n == 10 || n == 13 || (0x20 ≤ n && n ≤ 0x7E) || n == 0x85
    || (0xA0 ≤ n && n != 0xFFFE && n != 0xFFFF)

def tokens? (s : List Char) : Option (List Token) :=
  if s.all isTextChar then Scan.run (s.length + 1) (.ofText s) else none

end ViewTemplates.Yaml
