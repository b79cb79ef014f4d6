import ViewTemplates.Json.Basic
import ViewTemplates.Decimal.Layout
import ViewTemplates.Text.Hex
import ViewTemplates.Text.Split

/-! Compact JSON text: no blanks, members in ascending order, and only the quote, the backslash
and control characters escaped in strings. -/
namespace ViewTemplates

def integerText (i : Int) : List Char :=
  if i < 0 then '-' :: Nat.toDigits 10 i.natAbs else Nat.toDigits 10 i.natAbs

namespace Json

def escape (c : Char) : List Char :=
  if c = '"' then ['\\','"']
  else if c = '\\' then ['\\','\\']
  else if c = '\x08' then ['\\','b']
  else if c = '\t' then ['\\','t']
  else if c = '\n' then ['\\','n']
  else if c = '\x0c' then ['\\','f']
  else if c = '\r' then ['\\','r']
  else if c.toNat < 0x20 then
    ['\\','u','0','0',Text.hexDigit (c.toNat / 16),Text.hexDigit (c.toNat % 16)]
  else [c]

def quoted (s : List Char) : List Char := '"' :: s.flatMap escape ++ ['"']

end Json

def Number.chars : Number → List Char
  | .int value _ => integerText value
  | .float value _ => FloatLayout.json.text value

namespace Json

mutual

def chars : Json → List Char
  | .null => ['n','u','l','l']
  | .bool true => ['t','r','u','e']
  | .bool false => ['f','a','l','s','e']
  | .number value => value.chars
  | .string value => quoted value.toList
  | .array items => '[' :: Text.joined [','] (itemChars items) ++ [']']
  | .object members => '{' :: Text.joined [','] (memberChars members) ++ ['}']

def itemChars : List Json → List (List Char)
  | [] => []
  | item :: rest => item.chars :: itemChars rest

def memberChars : List (String × Json) → List (List Char)
  | [] => []
  | (key,value) :: rest => (quoted key.toList ++ ':' :: value.chars) :: memberChars rest

end

def text (value : Json) : String := String.ofList value.chars

/-- The text of a value where no quoting is asked for: a string is its own text. -/
def bareText : Json → String
  | .string value => value
  | value => value.text

end Json

end ViewTemplates
