import ViewTemplates.Jinja.Token
import ViewTemplates.Text.Blank
import ViewTemplates.Text.Split
import ViewTemplates.Text.Digits

/-! From the text of a template to its tokens. A hyphen inside a mark removes the blanks of the text
beside it. -/
namespace ViewTemplates.Jinja

inductive Mark
  | expression
  | statement
  | comment
deriving DecidableEq

/-- The text before the first mark, and the mark with what follows it. -/
def untilMark : List Char → List Char × Option (Mark × List Char)
  | '{' :: '{' :: rest => ([],some (.expression,rest))
  | '{' :: '%' :: rest => ([],some (.statement,rest))
  | '{' :: '#' :: rest => ([],some (.comment,rest))
  | c :: rest =>
    let (before,found) := untilMark rest
    (c :: before,found)
  | [] => ([],none)

inductive Blanks
  | remove
  | keep
  | unspecified
deriving DecidableEq

def blanksSign : List Char → Blanks × List Char
  | '-' :: rest => (.remove,rest)
  | '+' :: rest => (.keep,rest)
  | s => (.unspecified,s)

def isAsciiBlank (c : Char) : Bool :=
  c == ' ' || c == '\t' || c == '\n' || c == '\x0c' || c == '\r'

def dropBlanks (s : List Char) : List Char := s.dropWhile isAsciiBlank

def untilPair (a b : Char) : List Char → Option (List Char × List Char)
  | [] => none
  | c :: rest =>
    if c = a ∧ rest.head? = some b then some ([],rest.tail)
    else (untilPair a b rest).map fun p => (c :: p.1,p.2)

/-- The end of a statement that is a single word, and the sign for the blanks after it. -/
def bareStatement? (word : List Char) (s : List Char) : Option (Blanks × List Char) :=
  let s := dropBlanks s
  if word.isPrefixOf s then
    match blanksSign (dropBlanks (s.drop word.length)) with
    | (sign,'%' :: '}' :: rest) => some (sign,rest)
    | _ => none
  else none

/-- The text of a raw block up to its end: the text, the sign before the end, the sign after it,
and the rest. -/
def rawText? : List Char → Option (List Char × Blanks × Blanks × List Char)
  | '{' :: '%' :: rest =>
    let (sign,inner) := blanksSign rest
    match bareStatement? ['e','n','d','r','a','w'] inner with
    | some (after,rest) => some ([],sign,after,rest)
    | none => (rawText? rest).map fun p => ('{' :: '%' :: p.1,p.2)
  | c :: rest => (rawText? rest).map fun p => (c :: p.1,p.2)
  | [] => none

def isWordStart (c : Char) : Bool := Text.isAsciiUpper c || Text.isAsciiLower c || c == '_'

def isWordChar (c : Char) : Bool := Text.isAsciiAlphanumeric c || c == '_'

def singleSymbol? (c : Char) : Option Symbol :=
  if c = '+' then some .plus
  else if c = '-' then some .minus
  else if c = '*' then some .star
  else if c = '/' then some .slash
  else if c = '%' then some .percent
  else if c = '!' then some .bang
  else if c = '.' then some .dot
  else if c = ',' then some .comma
  else if c = ':' then some .colon
  else if c = '~' then some .tilde
  else if c = '|' then some .pipe
  else if c = '=' then some .assign
  else if c = '>' then some .greater
  else if c = '<' then some .less
  else if c = '(' then some .parenOpen
  else if c = ')' then some .parenClose
  else if c = '[' then some .bracketOpen
  else if c = ']' then some .bracketClose
  else if c = '{' then some .braceOpen
  else if c = '}' then some .braceClose
  else none

def symbol? : List Char → Option (Symbol × List Char)
  | '/' :: '/' :: rest => some (.doubleSlash,rest)
  | '*' :: '*' :: rest => some (.power,rest)
  | '=' :: '=' :: rest => some (.equal,rest)
  | '!' :: '=' :: rest => some (.notEqual,rest)
  | '>' :: '=' :: rest => some (.greaterEqual,rest)
  | '<' :: '=' :: rest => some (.lessEqual,rest)
  | c :: rest => (singleSymbol? c).map fun s => (s,rest)
  | [] => none

def stringRaw (quote : Char) : List Char → Option (List Char × List Char)
  | [] => none
  | [c] => if c = quote then some ([],[]) else none
  | c :: d :: rest =>
    if c = quote then some ([],d :: rest)
    else if c = '\\' then (stringRaw quote rest).map fun p => (c :: d :: p.1,p.2)
    else (stringRaw quote (d :: rest)).map fun p => (c :: p.1,p.2)

/-- The number that so many digits of base sixteen make up; a plus sign may take the place of the
first. -/
def escapeUnit? (count : Nat) (s : List Char) : Option (Nat × List Char) :=
  let unit := s.take count
  if unit.length < count then none
  else
    let digits := match unit with
      | '+' :: rest => rest
      | unit => unit
    (Text.natural? 16 digits).map fun n => (n,s.drop count)

def isOctal (c : Char) : Bool := '0' ≤ c && c ≤ '7'

/-- The text that a string literal stands for. Two units of a surrogate pair make one character,
and up to three digits of base eight stand for a byte. A backslash that begins no escape is kept. -/
def unescape (fuel : Nat) (s : List Char) : Option (List Char) :=
  match fuel with
  | 0 => none
  | fuel + 1 =>
    match s with
    | [] => some []
    | '\\' :: 'u' :: rest => do
      let (unit,rest) ← escapeUnit? 4 rest
      if unit < 0xD800 ∨ 0xE000 ≤ unit then (unescape fuel rest).map (Char.ofNat unit :: ·)
      else match rest with
        | '\\' :: 'u' :: rest => do
          let (low,rest) ← escapeUnit? 4 rest
          if 0xDC00 ≤ unit ∨ low < 0xDC00 ∨ 0xE000 ≤ low then none
          else
            let c := Char.ofNat (0x10000 + (unit - 0xD800) * 0x400 + (low - 0xDC00))
            (unescape fuel rest).map (c :: ·)
        | _ => none
    | '\\' :: 'x' :: rest => do
      let (byte,rest) ← escapeUnit? 2 rest
      (unescape fuel rest).map (Char.ofNat byte :: ·)
    | '\\' :: c :: rest =>
      if isOctal c then
        let digits := ((c :: rest).take 3).takeWhile isOctal
        match Text.natural? 8 digits with
        | some byte =>
          if byte < 256 then
            (unescape fuel ((c :: rest).drop digits.length)).map (Char.ofNat byte :: ·)
          else none
        | none => none
      else
        let found :=
          if c = '"' ∨ c = '\\' ∨ c = '/' ∨ c = '\'' then [c]
          else if c = 'b' then ['\x08']
          else if c = 'f' then ['\x0c']
          else if c = 'n' then ['\n']
          else if c = 'r' then ['\r']
          else if c = 't' then ['\t']
          else ['\\',c]
        (unescape fuel rest).map (found ++ ·)
    | ['\\'] => none
    | c :: rest => (unescape fuel rest).map (c :: ·)

inductive NumberPart
  | based
  | whole
  | fraction
  | exponent
  | exponentDigits
deriving DecidableEq

def NumberPart.next? (part : NumberPart) (base : Nat) (c : Char) : Option NumberPart :=
  if Text.isAsciiDigit c then some (if part = .exponent then .exponentDigits else part)
  else if c = '_' then some part
  else if c = '.' ∧ part = .whole then some .fraction
  else if (c = 'e' ∨ c = 'E') ∧ (part = .whole ∨ part = .fraction) then some .exponent
  else if (c = '+' ∨ c = '-') ∧ part = .exponent then some .exponentDigits
  else if part = .based ∧ base = 16 ∧ (Text.digitValue? 16 c).isSome then some part
  else none

def startsExponent : List Char → Bool
  | e :: c :: rest =>
    (e == 'e' || e == 'E') && (Text.isAsciiDigit c ||
      ((c == '+' || c == '-') && rest.head?.any Text.isAsciiDigit))
  | _ => false

/-- Whether a point begins the name of an attribute and does not go on with a number. -/
def startsAttribute : List Char → Bool
  | '.' :: rest => rest.head?.any isWordStart && !startsExponent rest
  | _ => false

/-- The longest text of a number, and the part that it ends in. -/
def numberText (base : Nat) (part : NumberPart) : List Char → List Char × NumberPart × List Char
  | [] => ([],part,[])
  | c :: rest =>
    match if startsAttribute (c :: rest) then none else part.next? base c with
    | none => ([],part,c :: rest)
    | some next =>
      let (digits,last,rest) := numberText base next rest
      (c :: digits,last,rest)

/-- A number: an integer below `2 ^ 128` in base two, eight, ten or sixteen, or a float. -/
def number? (s : List Char) : Option (Token × List Char) :=
  let (base,part,s) := match s with
    | '0' :: c :: rest =>
      if c = 'b' ∨ c = 'B' then (2,NumberPart.based,rest)
      else if c = 'o' ∨ c = 'O' then (8,NumberPart.based,rest)
      else if c = 'x' ∨ c = 'X' then (16,NumberPart.based,rest)
      else (10,NumberPart.whole,s)
    | s => (10,NumberPart.whole,s)
  let (digits,last,rest) := numberText base part s
  if digits.getLast? = some '_' then none
  else
    let digits := digits.filter (· != '_')
    if last = .based ∨ last = .whole then do
      let n ← Text.natural? base digits
      if n < Nat.pow 2 128 then some (.int n,rest) else none
    else
      (Text.decimal? digits).map fun d => (.float (.ofDecimal false d.1 d.2),rest)

def codeToken? (s : List Char) : Option (Token × List Char) :=
  match s with
  | [] => none
  | c :: rest =>
    if c = '"' ∨ c = '\'' then do
      let (raw,rest) ← stringRaw c rest
      let text ← unescape (raw.length + 1) raw
      some (.string text,rest)
    else if Text.isAsciiDigit c then number? s
    else match symbol? s with
      | some (symbol,rest) => some (.symbol symbol,rest)
      | none =>
        if isWordStart c then
          some (.word (String.ofList (s.takeWhile isWordChar)),s.dropWhile isWordChar)
        else none

/-- The end of an expression or statement: its token, whether blanks after it are removed, and the
rest. -/
def codeEnd? (statement : Bool) : List Char → Option (Token × Bool × List Char)
  | '-' :: '}' :: '}' :: rest => if statement then none else some (.expressionEnd,true,rest)
  | '+' :: '}' :: '}' :: rest => if statement then none else some (.expressionEnd,false,rest)
  | '}' :: '}' :: rest => if statement then none else some (.expressionEnd,false,rest)
  | '-' :: '%' :: '}' :: rest => if statement then some (.statementEnd,true,rest) else none
  | '+' :: '%' :: '}' :: rest => if statement then some (.statementEnd,false,rest) else none
  | '%' :: '}' :: rest => if statement then some (.statementEnd,false,rest) else none
  | _ => none

def Token.opening : Token → Int
  | .symbol .parenOpen | .symbol .bracketOpen | .symbol .braceOpen => 1
  | .symbol .parenClose | .symbol .bracketClose | .symbol .braceClose => -1
  | _ => 0

/-- The tokens of an expression or statement up to its end, which cannot stand inside brackets;
`opened` is the number of open ones. Where the end is missing the text after it is empty. -/
def code? (fuel : Nat) (statement : Bool) (opened : Int) (s : List Char) :
    Option (List Token × Bool × List Char) :=
  match fuel with
  | 0 => none
  | fuel + 1 =>
    match dropBlanks s with
    | [] => some ([],false,[])
    | s =>
      match (if opened = 0 then codeEnd? statement s else none) with
      | some (token,removes,rest) => some ([token],removes,rest)
      | none => do
        let (token,rest) ← codeToken? s
        let (tokens,removes,rest) ← code? fuel statement (opened + token.opening) rest
        some (token :: tokens,removes,rest)

def textTokens (s : List Char) : List Token := if s.isEmpty then [] else [.text s]

/-- The tokens of a template. `removes` says that blanks at its start are to be removed. -/
def template? (fuel : Nat) (removes : Bool) (s : List Char) : Option (List Token) :=
  match fuel with
  | 0 => none
  | fuel + 1 =>
    let s := if removes then Text.trimStart s else s
    match untilMark s with
    | (text,none) => some (textTokens text)
    | (text,some (mark,rest)) => do
      let (sign,rest) := blanksSign rest
      let lead := textTokens (if sign = .remove then Text.trimEnd text else text)
      let following ← match mark with
        | .comment => do
          let (inner,rest) ← untilPair '#' '}' rest
          template? fuel (inner.getLast? == some '-') rest
        | .expression => do
          let (tokens,removes,rest) ← code? (rest.length + 1) false 0 rest
          let following ← template? fuel removes rest
          some (.expressionStart :: tokens ++ following)
        | .statement =>
          match bareStatement? ['r','a','w'] rest with
          | some (first,rest) => do
            let (raw,last,after,rest) ← rawText? rest
            let raw := if first = .remove then Text.trimStart raw else raw
            let raw := if last = .remove then Text.trimEnd raw else raw
            let following ← template? fuel (after == .remove) rest
            some (.text raw :: following)
          | none => do
            let (tokens,removes,rest) ← code? (rest.length + 1) true 0 rest
            let following ← template? fuel removes rest
            some (.statementStart :: tokens ++ following)
      some (lead ++ following)

/-- The tokens of a text. One line end at its very end does not count. -/
def tokens? (source : String) : Option (List Token) :=
  let s := source.toList
  let s := (Text.dropEnding? ['\n'] s).getD s
  let s := (Text.dropEnding? ['\r'] s).getD s
  template? (s.length + 1) false s

end ViewTemplates.Jinja
