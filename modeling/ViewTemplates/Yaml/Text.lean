import ViewTemplates.Json.Text
import ViewTemplates.Yaml.Scalar

/-! Data as a YAML document in block style, one line after another without a width limit. Strings
are plain where they can be, then in single quotes, as a literal block, or in double quotes. -/
namespace ViewTemplates.Yaml

def isSpace (c : Char) : Bool := c == ' '

def isBreak (c : Char) : Bool :=
  c == '\n' || c == '\r' || c.toNat == 0x85 || c.toNat == 0x2028 || c.toNat == 0x2029

def isBlankOrBreak (c : Char) : Bool := c == ' ' || c == '\t' || c.toNat == 0 || isBreak c

/-- Characters that stand for themselves in every style. -/
def isPrintable (c : Char) : Bool :=
  let n := c.toNat
  n == 10 || (0x20 ≤ n && n ≤ 0x7E) || (0xA0 ≤ n && n != 0xFEFF && n != 0xFFFE && n != 0xFFFF)

/-- A line end, a space or nothing after a character that would make an indicator of it. -/
def endsWord (next : Option Char) : Bool := next.all isBlankOrBreak

def isLeadingIndicator (c : Char) (next : Option Char) : Bool :=
  c == '#' || c == ',' || c == '[' || c == ']' || c == '{' || c == '}' || c == '&' || c == '*'
    || c == '!' || c == '|' || c == '>' || c == '\'' || c == '"' || c == '%' || c == '@'
    || c.toNat == 0x60 || ((c == '?' || c == ':' || c == '-') && endsWord next)

/-- Whether a colon or a number sign after the first character ends a plain scalar. -/
def hasInnerIndicator : List Char → Bool
  | previous :: c :: rest =>
    (c == ':' && endsWord rest.head?) || (c == '#' && isBlankOrBreak previous)
      || hasInnerIndicator (c :: rest)
  | _ => false

def hasIndicator (s : List Char) : Bool :=
  ['-','-','-'].isPrefixOf s || ['.','.','.'].isPrefixOf s || hasInnerIndicator s
    || match s with
      | c :: rest => isLeadingIndicator c rest.head?
      | [] => false

def hasPair (first second : Char → Bool) : List Char → Bool
  | a :: b :: rest => (first a && second b) || hasPair first second (b :: rest)
  | _ => false

inductive Style
  | plain
  | single
  | double
  | literal
deriving DecidableEq, Repr

def isMultiline (s : List Char) : Bool := s.any isBreak

def needsEscapes (s : List Char) : Bool := s.any (!isPrintable ·) || hasPair isSpace isBreak s

def startsOrEnds (kind : Char → Bool) (s : List Char) : Bool :=
  s.head?.any kind || s.getLast?.any kind

/-- The style of a string. Text with line feeds is a literal block, text that would be read as
something else is quoted, and other text is plain as far as its characters allow. -/
def styleOf (s : List Char) : Style :=
  if s.contains '\n' then
    if needsEscapes s || s.getLast?.any isSpace then .double else .literal
  else
    let plain :=
      Scalar.ofPlain s = .text ∧ ¬Scalar.isPaddedDigits s ∧ ¬hasIndicator s ∧
        ¬startsOrEnds isSpace s ∧ ¬isMultiline s ∧ ¬needsEscapes s
    if plain then .plain
    else if needsEscapes s || hasPair isBreak isSpace s then .double
    else .single

def spaces (n : Nat) : List Char := List.replicate n ' '

def indented (indent : Nat) (atBreak : Bool) : List Char → List Char
  | [] => []
  | c :: rest =>
    if isBreak c then c :: indented indent true rest
    else (if atBreak then spaces indent else []) ++ c :: indented indent false rest

/-- A single-quoted text; quotes inside are written twice. -/
def singleQuoted (indent : Nat) (s : List Char) : List Char :=
  let doubled := s.flatMap fun c => if c = '\'' then ['\'','\''] else [c]
  let tail := if s.getLast?.any isBreak then spaces indent else []
  '\'' :: indented indent false doubled ++ tail ++ ['\'']

def upperHex (width n : Nat) : List Char :=
  let digits := Text.toUpper (Nat.toDigits 16 n)
  List.replicate (width - digits.length) '0' ++ digits

def escape (c : Char) : List Char :=
  let n := c.toNat
  if c = '"' then ['\\','"']
  else if c = '\\' then ['\\','\\']
  else if n = 0 then ['\\','0']
  else if n = 7 then ['\\','a']
  else if n = 8 then ['\\','b']
  else if n = 9 then ['\\','t']
  else if n = 10 then ['\\','n']
  else if n = 11 then ['\\','v']
  else if n = 12 then ['\\','f']
  else if n = 13 then ['\\','r']
  else if n = 27 then ['\\','e']
  else if n = 0x85 then ['\\','N']
  else if n = 0x2028 then ['\\','L']
  else if n = 0x2029 then ['\\','P']
  else if isPrintable c then [c]
  else if n ≤ 0xFF then '\\' :: 'x' :: upperHex 2 n
  else if n ≤ 0xFFFF then '\\' :: 'u' :: upperHex 4 n
  else '\\' :: 'U' :: upperHex 8 n

def doubleQuoted (s : List Char) : List Char := '"' :: s.flatMap escape ++ ['"']

/-- The marks of a literal block: the indentation where the text begins with a space or a break,
and whether its end has no line break, one, or more. -/
def literalHeader (s : List Char) : List Char :=
  let indentMark := if s.head?.any fun c => isSpace c || isBreak c then ['2'] else []
  let endMark :=
    match s.reverse with
    | [] => ['-']
    | [c] => if isBreak c then ['+'] else ['-']
    | c :: before :: _ => if isBreak c then (if isBreak before then ['+'] else []) else ['-']
  '|' :: indentMark ++ endMark ++ ['\n']

/-- A string with the line break after it; a block that ends in one needs no other. -/
def stringLine (indent : Nat) (s : List Char) : List Char :=
  match styleOf s with
  | .plain => s ++ ['\n']
  | .single => singleQuoted indent s ++ ['\n']
  | .double => doubleQuoted s ++ ['\n']
  | .literal =>
    literalHeader s ++ indented indent true s ++ if s.getLast?.any isBreak then [] else ['\n']

/-- Keys on one line are followed by a colon. -/
def isSimpleKey (key : String) : Bool := !isMultiline key.toList && key.utf8ByteSize ≤ 128

def numberText : Number → List Char
  | .int value _ => integerText value
  | .float value _ => FloatLayout.yaml.text value

/-- Indents a line that is not the first of its block; the first one follows its mark. -/
def lineStart (first : Bool) (indent : Nat) : List Char := if first then [] else spaces indent

/-- Where a value stands: alone or after a dash in the column `indent`, or after the colon of a
key in that column. -/
inductive Place
  | column (indent : Nat)
  | key (indent : Nat)

namespace Place

def lead : Place → List Char
  | column _ => []
  | key _ => [' ']

def textIndent : Place → Nat
  | column 0 => 2
  | column indent => indent
  | key indent => indent + 2

end Place

mutual

/-- The lines of a value. Below a key lists keep its column and mappings are set in. -/
def lines (place : Place) : Json → List Char
  | .null => place.lead ++ ['n','u','l','l','\n']
  | .bool true => place.lead ++ ['t','r','u','e','\n']
  | .bool false => place.lead ++ ['f','a','l','s','e','\n']
  | .number value => place.lead ++ numberText value ++ ['\n']
  | .string value => place.lead ++ stringLine place.textIndent value.toList
  | .array [] => place.lead ++ ['[',']','\n']
  | .array (item :: rest) =>
    match place with
    | .column indent => itemLines indent true (item :: rest)
    | .key indent => '\n' :: itemLines indent false (item :: rest)
  | .object [] => place.lead ++ ['{','}','\n']
  | .object (member :: rest) =>
    match place with
    | .column indent => memberLines indent true (member :: rest)
    | .key indent => '\n' :: memberLines (indent + 2) false (member :: rest)

def itemLines (indent : Nat) (first : Bool) : List Json → List Char
  | [] => []
  | item :: rest =>
    lineStart first indent ++ '-' :: ' ' :: lines (.column (indent + 2)) item
      ++ itemLines indent false rest

def memberLines (indent : Nat) (first : Bool) : List (String × Json) → List Char
  | [] => []
  | (key,value) :: rest =>
    let keyLine := stringLine (indent + 2) key.toList
    let entry :=
      if isSimpleKey key then keyLine.dropLast ++ ':' :: lines (.key indent) value
      else
        '?' :: ' ' :: keyLine ++ spaces indent ++ ':' :: ' ' :: lines (.column (indent + 2)) value
    lineStart first indent ++ entry ++ memberLines indent false rest

end

def chars (value : Json) : List Char := lines (.column 0) value

end ViewTemplates.Yaml
