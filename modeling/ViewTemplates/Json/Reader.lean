import ViewTemplates.Json.Basic

/-! Reading JSON text. Of two members with one key the later counts; a number with no fraction and
no exponent that fits a word is an integer, every other number is a float. -/
namespace ViewTemplates.Json.Reader

def isBlank (c : Char) : Bool := c == ' ' || c == '\t' || c == '\n' || c == '\r'

def skipBlanks (s : List Char) : List Char := s.dropWhile isBlank

def hexValue (c : Char) : Option Nat :=
  if '0' ≤ c ∧ c ≤ '9' then some (c.toNat - 48)
  else if 'a' ≤ c ∧ c ≤ 'f' then some (c.toNat - 87)
  else if 'A' ≤ c ∧ c ≤ 'F' then some (c.toNat - 55)
  else none

def hexUnit : List Char → Option (Nat × List Char)
  | a :: b :: c :: d :: rest => do
    let a ← hexValue a
    let b ← hexValue b
    let c ← hexValue c
    let d ← hexValue d
    some (((a * 16 + b) * 16 + c) * 16 + d,rest)
  | _ => none

/-- The character that an escape after the backslash stands for. A unit of the first half of a
surrogate pair needs its second half; a lone half is refused. -/
def escape : List Char → Option (Char × List Char)
  | 'u' :: rest => do
    let (unit,rest) ← hexUnit rest
    if unit < 0xD800 ∨ 0xE000 ≤ unit then some (Char.ofNat unit,rest)
    else if 0xDC00 ≤ unit then none
    else match rest with
      | '\\' :: 'u' :: rest =>
        let (low,rest) ← hexUnit rest
        if 0xDC00 ≤ low ∧ low < 0xE000 then
          some (Char.ofNat (0x10000 + (unit - 0xD800) * 0x400 + (low - 0xDC00)),rest)
        else none
      | _ => none
  | 'b' :: rest => some ('\x08',rest)
  | 't' :: rest => some ('\t',rest)
  | 'n' :: rest => some ('\n',rest)
  | 'f' :: rest => some ('\x0c',rest)
  | 'r' :: rest => some ('\r',rest)
  | c :: rest => if c = '"' ∨ c = '\\' ∨ c = '/' then some (c,rest) else none
  | [] => none

def stringBody (fuel : Nat) (s : List Char) : Option (List Char × List Char) :=
  match fuel, s with
  | 0, _ => none
  | _, [] => none
  | fuel + 1, c :: rest =>
    if c = '"' then some ([],rest)
    else if c = '\\' then do
      let (c,rest) ← escape rest
      let (cs,rest) ← stringBody fuel rest
      some (c :: cs,rest)
    else if c.toNat < 0x20 then none
    else do
      let (cs,rest) ← stringBody fuel rest
      some (c :: cs,rest)

def isDigit (c : Char) : Bool := '0' ≤ c && c ≤ '9'

def digitsValue (ds : List Char) : Nat := ds.foldl (fun n c => n * 10 + (c.toNat - 48)) 0

def exponentPart (s : List Char) : Option (Option Int × List Char) :=
  match s with
  | c :: rest =>
    if c = 'e' ∨ c = 'E' then
      let (negative,rest) := match rest with
        | '-' :: rest => (true,rest)
        | '+' :: rest => (false,rest)
        | rest => (false,rest)
      let ds := rest.takeWhile isDigit
      if ds.isEmpty then none
      else
        let value : Int := digitsValue ds
        some (some (if negative then -value else value),rest.dropWhile isDigit)
    else some (none,s)
  | [] => some (none,s)

def fractionPart (s : List Char) : Option (Option (List Char) × List Char) :=
  match s with
  | '.' :: rest =>
    let ds := rest.takeWhile isDigit
    if ds.isEmpty then none else some (some ds,rest.dropWhile isDigit)
  | _ => some (none,s)

/-- Appends digits to a number as long as it fits a word; with it, the number of digits that were
taken. -/
def takeWord (n : Nat) : List Char → Nat × Nat
  | [] => (n,0)
  | d :: ds =>
    let next := n * 10 + (d.toNat - 48)
    if next < Nat.pow 2 64 then
      let (word,taken) := takeWord next ds
      (word,taken + 1)
    else (n,0)

/-- A float from its digits. Those of the whole part that do not fit a word count as zeros, those
of the fraction not at all. -/
def float? (negative : Bool) (whole fraction : List Char) (exponent : Int) : Option Json :=
  let (word,wholeTaken) := takeWord 0 whole
  let (word,fractionTaken) := takeWord word fraction
  let places : Int := (whole.length - wholeTaken : Nat) - (fractionTaken : Int)
  (Binary64.scaled? negative (.ofNat word) (exponent + places)).map .ofBinary64

/-- A number from its sign on. A leading zero stands alone. -/
def number (s : List Char) : Option (Json × List Char) :=
  let (negative,s) := match s with
    | '-' :: rest => (true,rest)
    | s => (false,s)
  let whole := s.takeWhile isDigit
  if whole.isEmpty ∨ (whole.head? = some '0' ∧ whole.length ≠ 1) then none
  else do
    let (fraction,s) ← fractionPart (s.dropWhile isDigit)
    let (exponent,s) ← exponentPart s
    let float := (float? negative whole (fraction.getD []) (exponent.getD 0)).map fun x => (x,s)
    match fraction, exponent with
    | none, none =>
      let value : Int := digitsValue whole
      let value := if negative then -value else value
      if h : WordRange value ∧ ¬(negative ∧ value = 0) then some (.number (.int value h.1),s)
      else float
    | _, _ => float

def word (w : List Char) (value : Json) (s : List Char) : Option (Json × List Char) :=
  if w.isPrefixOf s then some (value,s.drop w.length) else none

mutual

/-- A value, with blanks allowed before it. -/
def value (fuel : Nat) (s : List Char) : Option (Json × List Char) :=
  match fuel with
  | 0 => none
  | fuel + 1 =>
    match skipBlanks s with
    | [] => none
    | c :: rest =>
      if c = '"' then do
        let (cs,rest) ← stringBody (rest.length + 1) rest
        some (.string (String.ofList cs),rest)
      else if c = '[' then
        match skipBlanks rest with
        | ']' :: rest => some (.array [],rest)
        | rest => do
          let (xs,rest) ← items fuel rest
          some (.array xs,rest)
      else if c = '{' then
        match skipBlanks rest with
        | '}' :: rest => some (.object [],rest)
        | rest => do
          let (ms,rest) ← members fuel rest
          some (.ofMembers ms,rest)
      else if c = 'n' then word ['n','u','l','l'] .null (c :: rest)
      else if c = 't' then word ['t','r','u','e'] (.bool true) (c :: rest)
      else if c = 'f' then word ['f','a','l','s','e'] (.bool false) (c :: rest)
      else number (c :: rest)

def items (fuel : Nat) (s : List Char) : Option (List Json × List Char) :=
  match fuel with
  | 0 => none
  | fuel + 1 => do
    let (x,s) ← value fuel s
    match skipBlanks s with
    | ',' :: rest =>
      let (xs,rest) ← items fuel rest
      some (x :: xs,rest)
    | ']' :: rest => some ([x],rest)
    | _ => none

def members (fuel : Nat) (s : List Char) : Option (List (String × Json) × List Char) :=
  match fuel with
  | 0 => none
  | fuel + 1 =>
    match skipBlanks s with
    | '"' :: rest => do
      let (key,rest) ← stringBody (rest.length + 1) rest
      match skipBlanks rest with
      | ':' :: rest =>
        let (v,rest) ← value fuel rest
        let member := (String.ofList key,v)
        match skipBlanks rest with
        | ',' :: rest =>
          let (ms,rest) ← members fuel rest
          some (member :: ms,rest)
        | '}' :: rest => some ([member],rest)
        | _ => none
      | _ => none
    | _ => none

end

end Reader

/-- The value a text denotes, if it is one JSON value with blanks around it. -/
def ofText? (text : String) : Option Json :=
  let s := text.toList
  match Reader.value (s.length + 1) s with
  | some (v,rest) => if (Reader.skipBlanks rest).isEmpty then some v else none
  | none => none

end ViewTemplates.Json
