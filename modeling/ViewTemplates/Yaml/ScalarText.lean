import ViewTemplates.Yaml.Cursor

/-! The text of scalars: plain, in quotes, and in blocks. A reader returns the text and the place
after it, and nothing where the text is not well formed. -/
namespace ViewTemplates.Yaml

/-- The blanks and breaks between two words. `first` is the first line break, `more` are the
breaks after it; before any break the blanks themselves are kept. -/
structure Gap where
  blanks : List Char
  broken : Bool
  first : Option Char
  more : List Char

namespace Gap

def none : Gap := ⟨[],false,.none,[]⟩

/-- What a gap counts for: one line break folds to a blank, further ones are kept. -/
def folded (gap : Gap) : List Char :=
  if gap.broken then
    if gap.first = some '\n' then (if gap.more.isEmpty then [' '] else gap.more)
    else gap.first.toList ++ gap.more
  else gap.blanks

/-- Reads blanks and breaks. `allowed` says whether a blank may stand where it does. -/
def read (fuel : Nat) (allowed : Bool → Cursor → Bool) (gap : Gap) (c : Cursor) :
    Option (Gap × Cursor) :=
  match fuel with
  | 0 => some (gap,c)
  | fuel + 1 =>
    match c.peek with
    | .none => some (gap,c)
    | some x =>
      if x = ' ' ∨ x = '\t' then
        if allowed gap.broken c then
          read fuel allowed
            (if gap.broken then gap else { gap with blanks := gap.blanks ++ [x] }) (c.skip 1)
        else .none
      else match c.takeBreak? with
        | .none => some (gap,c)
        | some (b,next) =>
          if gap.broken then read fuel allowed { gap with more := gap.more ++ [b] } next
          else read fuel allowed ⟨[],true,some b,gap.more⟩ next

end Gap

def hexNumber? (count : Nat) (c : Cursor) : Option Nat :=
  let digits := c.rest.take count
  if digits.length = count then Text.natural? 16 digits else none

/-- The character that an escape after a backslash stands for, and the number of digits that
follow the letter. -/
def escapeValue (c : Cursor) : Option (Char × Cursor) :=
  let short (n : Nat) : Option (Char × Cursor) := some (Char.ofNat n,c.skip 2)
  let long (count : Nat) : Option (Char × Cursor) := do
    let n ← hexNumber? count (c.skip 2)
    if 0xD800 ≤ n ∧ n ≤ 0xDFFF ∨ 0x10FFFF < n then none
    else some (Char.ofNat n,c.skip (2 + count))
  match c.peekAt 1 with
  | some '0' => short 0
  | some 'a' => short 7
  | some 'b' => short 8
  | some 't' => short 9
  | some '\t' => short 9
  | some 'n' => short 10
  | some 'v' => short 11
  | some 'f' => short 12
  | some 'r' => short 13
  | some 'e' => short 27
  | some ' ' => short 32
  | some '"' => short 34
  | some '/' => short 47
  | some '\\' => short 92
  | some 'N' => short 0x85
  | some '_' => short 0xA0
  | some 'L' => short 0x2028
  | some 'P' => short 0x2029
  | some 'x' => long 2
  | some 'u' => long 4
  | some 'U' => long 8
  | _ => none

/-- The characters of a quoted scalar up to a blank, a break, the end or the closing quote. A
backslash before a line break ends the word and drops the break. -/
def quotedWord (fuel : Nat) (single : Bool) (c : Cursor) : Option (List Char × Bool × Cursor) :=
  match fuel with
  | 0 => none
  | fuel + 1 =>
    match c.peek with
    | none => some ([],false,c)
    | some x =>
      if isBlankOrBreak x then some ([],false,c)
      else if single && x == '\'' then
        if c.peekAt 1 = some '\'' then do
          let (word,broken,c) ← quotedWord fuel single (c.skip 2)
          some ('\'' :: word,broken,c)
        else some ([],false,c)
      else if !single && x == '"' then some ([],false,c)
      else if !single && x == '\\' then
        if (c.skip 1).atBreak then some ([],true,(c.skip 1).skipBreak)
        else do
          let (e,c) ← escapeValue c
          let (word,broken,c) ← quotedWord fuel single c
          some (e :: word,broken,c)
      else do
        let (word,broken,c) ← quotedWord fuel single (c.skip 1)
        some (x :: word,broken,c)

def quotedText (fuel : Nat) (single : Bool) (c : Cursor) : Option (List Char × Cursor) :=
  match fuel with
  | 0 => none
  | fuel + 1 =>
    if c.atDocumentMark || c.atEnd then none
    else do
      let (word,broken,c) ← quotedWord (c.rest.length + 1) single c
      if c.isAt (if single then '\'' else '"') then some (word,c.skip 1)
      else
        let (gap,c) ← Gap.read (c.rest.length + 1) (fun _ _ => true)
          { Gap.none with broken := broken } c
        let (rest,c) ← quotedText fuel single c
        some (word ++ gap.folded ++ rest,c)

def isFlowIndicator (c : Char) : Bool := c == ',' || c == '[' || c == ']' || c == '{' || c == '}'

def plainWord (fuel : Nat) (inFlow : Bool) (c : Cursor) : Option (List Char × Cursor) :=
  match fuel with
  | 0 => none
  | fuel + 1 =>
    match c.peek with
    | none => some ([],c)
    | some x =>
      if isBlankOrBreak x then some ([],c)
      else if inFlow && x == ':' && (c.peekAt 1).any (fun n => isFlowIndicator n || n == '?') then
        none
      else if (x == ':' && c.endsWordAt 1) || (inFlow && isFlowIndicator x) then some ([],c)
      else do
        let (word,c) ← plainWord fuel inFlow (c.skip 1)
        some (x :: word,c)

/-- A plain scalar from its first word on. `gap` is what stands before the word; the flag of the
answer says whether the scalar ended after a line break. -/
def plainText (fuel : Nat) (inFlow : Bool) (indent : Int) (gap : Gap) (c : Cursor) :
    Option (List Char × Bool × Cursor) :=
  match fuel with
  | 0 => none
  | fuel + 1 =>
    if c.atDocumentMark || c.isAt '#' then some ([],gap.broken,c)
    else do
      let (word,c) ← plainWord (c.rest.length + 1) inFlow c
      let lead := if word.isEmpty then [] else gap.folded
      let before := if word.isEmpty then gap else Gap.none
      if c.atBlank || c.atBreak then
        let mayStand (broken : Bool) (c : Cursor) :=
          !(broken && (c.column : Int) < indent && c.isAt '\t')
        let (gap,c) ← Gap.read (c.rest.length + 1) mayStand before c
        if !inFlow && (c.column : Int) < indent then some (lead ++ word,gap.broken,c)
        else
          let (rest,broken,c) ← plainText fuel inFlow indent gap c
          some (lead ++ word ++ rest,broken,c)
      else some (lead ++ word,before.broken,c)

/-- What happens to the line breaks at the end of a block. -/
inductive Chomp
  | strip
  | clip
  | keep
deriving DecidableEq

def chompMark (c : Cursor) : Option (Chomp × Cursor) :=
  if c.isAt '+' then some (.keep,c.skip 1)
  else if c.isAt '-' then some (.strip,c.skip 1)
  else none

/-- The digit for the indentation of a block, from one to nine. `none` is an error, and zero
stands for no digit. -/
def indentMark (c : Cursor) : Option (Nat × Cursor) :=
  match c.peek with
  | some '0' => none
  | some x => if Text.isAsciiDigit x then some (x.toNat - 48,c.skip 1) else some (0,c)
  | none => some (0,c)

def blockMarks (c : Cursor) : Option (Chomp × Nat × Cursor) :=
  match chompMark c with
  | some (chomp,c) => do
    let (indent,c) ← indentMark c
    some (chomp,indent,c)
  | none => do
    let (indent,c) ← indentMark c
    if indent = 0 then some (.clip,0,c)
    else match chompMark c with
      | some (chomp,c) => some (chomp,indent,c)
      | none => some (.clip,indent,c)

/-- Reads empty lines of a block: their breaks, the greatest column reached, and the place where
the next line's text begins. An indentation of zero is not yet known. -/
def emptyLines (fuel indent greatest : Nat) (c : Cursor) : Option (List Char × Nat × Cursor) :=
  match fuel with
  | 0 => none
  | fuel + 1 =>
    let blanks := (c.takeWhile isSpace).length
    let c := c.skip (if indent = 0 then blanks else min blanks (indent - c.column))
    let greatest := max greatest c.column
    if (indent = 0 || c.column < indent) && c.isAt '\t' then none
    else match c.takeBreak? with
      | none => some ([],greatest,c)
      | some (b,next) => do
        let (breaks,greatest,c) ← emptyLines fuel indent greatest next
        some (b :: breaks,greatest,c)

/-- The lines of a block. `lead` is the break before the line, `breaks` are those of the empty
lines after it, and `leadBlank` says whether the line before began with a blank. -/
def blockLines (fuel indent : Nat) (literal : Bool) (lead : Option Char) (breaks : List Char)
    (leadBlank : Bool) (c : Cursor) : Option (List Char × Option Char × List Char × Cursor) :=
  match fuel with
  | 0 => none
  | fuel + 1 =>
    if c.column = indent && !c.atEnd then do
      let blank := c.atBlank
      let join :=
        if !literal && lead == some '\n' && !leadBlank && !blank then
          (if breaks.isEmpty then [' '] else [])
        else lead.toList
      let line := c.takeWhile fun x => !isBreak x
      let c := c.skip line.length
      let (next,c) := match c.takeBreak? with
        | some (b,c) => (some b,c)
        | none => (none,c)
      let (more,_,c) ← emptyLines (c.rest.length + 1) indent 0 c
      let (rest,last,more,c) ← blockLines fuel indent literal next more blank c
      some (join ++ breaks ++ line ++ rest,last,more,c)
    else some ([],lead,breaks,c)

def blockText (literal : Bool) (parent : Int) (c : Cursor) : Option (List Char × Cursor) := do
  let (chomp,mark,c) ← blockMarks c
  let c := c.skipBlanks.skipComment
  if !(c.atBreak || c.atEnd) then none
  else
    let c := c.skipBreak
    let base := if 0 ≤ parent then parent.toNat else 0
    let given := if mark = 0 then 0 else base + mark
    let (breaks,greatest,c) ← emptyLines (c.rest.length + 1) given 0 c
    let indent := if given = 0 then max (max greatest (parent + 1).toNat) 1 else given
    let (text,last,more,c) ← blockLines (c.rest.length + 1) indent literal none breaks false c
    let ending := match chomp with
      | .strip => []
      | .clip => last.toList
      | .keep => last.toList ++ more
    some (text ++ ending,c)

end ViewTemplates.Yaml
