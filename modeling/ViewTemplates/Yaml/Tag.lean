import ViewTemplates.Yaml.ScalarText
import ViewTemplates.Yaml.Token

/-! Directives, anchors and tags: what stands before a node or a document. -/
namespace ViewTemplates.Yaml

def versionNumber? (c : Cursor) : Option (Nat × Cursor) :=
  let digits := c.takeWhile Text.isAsciiDigit
  if 9 < digits.length then none
  else (Text.natural? 10 digits).map fun n => (n,c.skip digits.length)

/-- A tag handle: an exclamation mark, letters, and in the named form another mark. -/
def tagHandle? (directive : Bool) (c : Cursor) : Option (List Char × Cursor) :=
  if c.isAt '!' then
    let name := (c.skip 1).takeWhile isNameChar
    let next := c.skip (1 + name.length)
    if next.isAt '!' then some ('!' :: name ++ ['!'],next.skip 1)
    else if directive && !name.isEmpty then none
    else some ('!' :: name,next)
  else none

def isTagChar (verbatim : Bool) (c : Char) : Bool :=
  isNameChar c || c == ';' || c == '/' || c == '?' || c == ':' || c == '@' || c == '&' || c == '='
    || c == '+' || c == '$' || c == '.' || c == '!' || c == '~' || c == '*' || c == '\'' || c == '('
    || c == ')' || (verbatim && (c == ',' || c == '[' || c == ']'))

/-- A percent sign and two digits stand for a byte. -/
def percentByte? (c : Cursor) : Option (UInt8 × Cursor) :=
  if c.isAt '%' then (hexNumber? 2 (c.skip 1)).map fun n => (UInt8.ofNat n,c.skip 3) else none

/-- The bytes that a first byte says follow it in its character. -/
def bytesAfter? (first : UInt8) : Option Nat :=
  if first < 0x80 then some 0
  else if 0xC0 ≤ first ∧ first < 0xE0 then some 1
  else if 0xE0 ≤ first ∧ first < 0xF0 then some 2
  else if 0xF0 ≤ first ∧ first < 0xF8 then some 3
  else none

def percentBytes? : Nat → Cursor → Option (List UInt8 × Cursor)
  | 0, c => some ([],c)
  | n + 1, c => do
    let (b,c) ← percentByte? c
    let (bs,c) ← percentBytes? n c
    some (b :: bs,c)

def percentChar? (c : Cursor) : Option (Utf8.Bytes × Cursor) := do
  let (first,next) ← percentByte? c
  let count ← bytesAfter? first
  let (more,next) ← percentBytes? count next
  if more.all Utf8.isContinuation then some (first :: more,next) else none

def tagText? (fuel : Nat) (verbatim : Bool) (c : Cursor) : Option (Utf8.Bytes × Cursor) :=
  match fuel with
  | 0 => none
  | fuel + 1 =>
    match c.peek with
    | none => some ([],c)
    | some x =>
      if x = '%' then do
        let (bytes,c) ← percentChar? c
        let (rest,c) ← tagText? fuel verbatim c
        some (bytes ++ rest,c)
      else if isTagChar verbatim x then do
        let (rest,c) ← tagText? fuel verbatim (c.skip 1)
        some (Utf8.encode [x] ++ rest,c)
      else some ([],c)

/-- What counts of a tag's bytes: a null byte ends it. -/
def untilNull (bytes : Utf8.Bytes) : Utf8.Bytes := bytes.takeWhile (· != 0)

/-- A tag: in angle brackets as it is, or by a handle; one mark alone is a tag of its own. -/
def tagName? (c : Cursor) : Option (TagName × Cursor) :=
  let fuel := c.rest.length + 1
  if c.peekAt 1 = some '<' then do
    let (suffix,c) ← tagText? fuel true (c.skip 2)
    if suffix.isEmpty || !c.isAt '>' then none
    else some (⟨[],untilNull suffix⟩,c.skip 1)
  else do
    let (handle,next) ← tagHandle? false c
    if 1 < handle.length ∧ handle.getLast? = some '!' then
      let (suffix,c) ← tagText? fuel false next
      if suffix.isEmpty then none else some (⟨handle,untilNull suffix⟩,c)
    else
      let (more,c) ← tagText? fuel false next
      let suffix := untilNull (Utf8.encode (handle.drop 1) ++ more)
      some (if suffix.isEmpty then ⟨[],Utf8.encode ['!']⟩ else ⟨['!'],suffix⟩,c)

/-- A tag ends at a blank, a break or the end, inside brackets also at a comma. -/
def tag? (inFlow : Bool) (c : Cursor) : Option (Token × Cursor) := do
  let (name,c) ← tagName? c
  if c.endsWordAt 0 || (inFlow && c.isAt ',') then some (.tag name,c) else none

def endsAnchor (c : Char) : Bool :=
  c == '?' || c == ':' || c == ',' || c == ']' || c == '}' || c == '%' || c == '@' ||
    c.toNat == 0x60

def anchorName? (c : Cursor) : Option (List Char × Cursor) :=
  let name := (c.skip 1).takeWhile isNameChar
  let next := c.skip (1 + name.length)
  if name.isEmpty || !(next.endsWordAt 0 || next.peek.any endsAnchor) then none
  else some (name,next)

def directiveEnd? (c : Cursor) : Option Cursor :=
  let c := c.skipBlanks.skipComment
  if c.atBreak || c.atEnd then some c.skipBreak else none

/-- A directive line; other directives than the two known ones are refused. -/
def directive? (c : Cursor) : Option (Token × Cursor) :=
  let name := (c.skip 1).takeWhile isNameChar
  let next := c.skip (1 + name.length)
  if name.isEmpty || !next.endsWordAt 0 then none
  else if name = ['Y','A','M','L'] then do
    let (major,c) ← versionNumber? next.skipBlanks
    if !c.isAt '.' then none
    else
      let (minor,c) ← versionNumber? (c.skip 1)
      let c ← directiveEnd? c
      some (.versionDirective major minor,c)
  else if name = ['T','A','G'] then do
    let (handle,c) ← tagHandle? true next.skipBlanks
    if !c.atBlank then none
    else
      let c := c.skipBlanks
      let (beginning,c) ← tagText? (c.rest.length + 1) true c
      if beginning.isEmpty || !c.endsWordAt 0 then none
      else
        let c ← directiveEnd? c
        some (.tagDirective handle (untilNull beginning),c)
  else none

end ViewTemplates.Yaml
