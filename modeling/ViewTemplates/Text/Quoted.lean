import ViewTemplates.Text.Letter
import ViewTemplates.Text.Split

/-! Text in double quotes as diagnostics show it: the quote, the backslash and every character
that cannot be seen are escaped. -/
namespace ViewTemplates.Text

/-- A character by its number, in as few digits of base sixteen as it has. -/
def byNumber (c : Char) : List Char :=
  '\\' :: 'u' :: '{' :: Nat.toDigits 16 c.toNat ++ ['}']

def isShown (c : Char) : Bool :=
  if isAscii c then 0x20 ≤ c.toNat && c.toNat < 0x7F
  else !inRanges unprintableRanges c.toNat && !inRanges extenderRanges c.toNat

def quotedChar (c : Char) : List Char :=
  if c = '"' then ['\\','"']
  else if c = '\\' then ['\\','\\']
  else if c = '\n' then ['\\','n']
  else if c = '\r' then ['\\','r']
  else if c = '\t' then ['\\','t']
  else if c.toNat = 0 then ['\\','0']
  else if isShown c then [c]
  else byNumber c

/-- A path in quotes; single quotes are escaped too. -/
def quotedPath (s : List Char) : List Char :=
  '"' :: s.flatMap (fun c => if c = '\'' then ['\\','\''] else quotedChar c) ++ ['"']

def quoted (s : List Char) : List Char := '"' :: s.flatMap quotedChar ++ ['"']

def quotedList (items : List String) : List Char :=
  '[' :: joined [',',' '] (items.map (quoted ·.toList)) ++ [']']

end ViewTemplates.Text
