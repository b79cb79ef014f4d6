import ViewTemplates.Yaml.Text

/-! A place in YAML text, and the steps from it. -/
namespace ViewTemplates.Yaml

/-- The text still to be read and where it begins: `index` counts the bytes before it, `column` the
characters before it on its line. -/
structure Cursor where
  rest : List Char
  index : Nat
  line : Nat
  column : Nat

namespace Cursor

def ofText (s : List Char) : Cursor := ⟨s,0,0,0⟩

def byteCount (s : List Char) : Nat := s.foldr (fun x count => x.utf8Size + count) 0

def peek (c : Cursor) : Option Char := c.rest.head?

def peekAt (c : Cursor) (n : Nat) : Option Char := c.rest[n]?

def isAt (c : Cursor) (x : Char) : Bool := c.peek == some x

def atEnd (c : Cursor) : Bool := c.rest.isEmpty

def atBlank (c : Cursor) : Bool := c.isAt ' ' || c.isAt '\t'

def atBreak (c : Cursor) : Bool := c.peek.any isBreak

/-- At a blank, a line break or the end. -/
def endsWordAt (c : Cursor) (n : Nat) : Bool := endsWord (c.peekAt n)

def skip (c : Cursor) (n : Nat) : Cursor :=
  ⟨c.rest.drop n,c.index + byteCount (c.rest.take n),c.line,c.column + n⟩

def skipWhile (c : Cursor) (kind : Char → Bool) : Cursor :=
  c.skip (c.rest.takeWhile kind).length

def takeWhile (c : Cursor) (kind : Char → Bool) : List Char := c.rest.takeWhile kind

/-- The line break at the cursor as it counts in a scalar, and the start of the next line. All
breaks but the two separators beyond ASCII become a line feed. -/
def takeBreak? (c : Cursor) : Option (Char × Cursor) :=
  match c.rest with
  | '\r' :: '\n' :: rest => some ('\n',⟨rest,c.index + 2,c.line + 1,0⟩)
  | x :: rest =>
    if isBreak x then
      let kept := x.toNat == 0x2028 || x.toNat == 0x2029
      some (if kept then x else '\n',⟨rest,c.index + x.utf8Size,c.line + 1,0⟩)
    else none
  | [] => none

def skipBreak (c : Cursor) : Cursor := (c.takeBreak?.map (·.2)).getD c

def skipComment (c : Cursor) : Cursor :=
  if c.isAt '#' then c.skipWhile fun x => !isBreak x else c

def skipBlanks (c : Cursor) : Cursor := c.skipWhile fun x => x == ' ' || x == '\t'

def atDocumentMark (c : Cursor) : Bool :=
  c.column == 0 && (['-','-','-'].isPrefixOf c.rest || ['.','.','.'].isPrefixOf c.rest)
    && c.endsWordAt 3

end Cursor

/-- Letters, digits, the underscore and the hyphen make up names. -/
def isNameChar (c : Char) : Bool := Text.isAsciiAlphanumeric c || c == '_' || c == '-'

end ViewTemplates.Yaml
