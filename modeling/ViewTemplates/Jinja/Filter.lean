import ViewTemplates.Jinja.Access
import ViewTemplates.Text.Blank
import ViewTemplates.Text.Markup

/-! Filters. -/
namespace ViewTemplates.Jinja

inductive Escaping
  | none
  | markup
deriving DecidableEq, Repr

def written (escaping : Escaping) (value : Value) : List Char :=
  match escaping, value with
  | .none, value => value.printed
  | .markup, .string true s => s
  | .markup, .string false s => Markup.escaped s
  | .markup, value =>
    match value.kind with
    | .undefined => value.printed
    | .none => value.printed
    | .bool => value.printed
    | .number => value.printed
    | _ => Markup.escaped value.printed

structure Arguments where
  positional : List Value
  keywords : List (String × Value)

/-- All arguments by position, those by name as one map at the end. -/
def Arguments.values (args : Arguments) : List Value :=
  if args.keywords.isEmpty then args.positional
  else
    args.positional ++
      [.ofEntries (args.keywords.reverse.map fun entry => (.text entry.1.toList,entry.2))]

/-- An argument that may be left out; nothing counts as left out. -/
def optionalArg : Option Value → Option Value
  | some .undefined => none
  | some .none => none
  | arg => arg

def flag? : Option Value → Except Fault Bool
  | none => .ok false
  | some .undefined => .ok false
  | some .none => .ok false
  | some (.bool b) => .ok b
  | some _ => .error .badOperation

namespace Filter

def isAsciiPunctuation (c : Char) : Bool :=
  let n := c.toNat
  (0x21 ≤ n && n ≤ 0x2F) || (0x3A ≤ n && n ≤ 0x40) || (0x5B ≤ n && n ≤ 0x60)
    || (0x7B ≤ n && n ≤ 0x7E)

/-- Capitals at the start and after blanks and punctuation, small letters elsewhere. -/
def title (start : Bool) : List Char → List Char
  | [] => []
  | c :: rest =>
    if isAsciiPunctuation c || Text.isBlank c then c :: title true rest
    else if start then Text.upperOf c ++ title false rest
    else Text.lowerOf c ++ title false rest

def capitalize : List Char → List Char
  | [] => []
  | c :: rest => Text.upperOf c ++ Text.toLower rest

/-- Changes the text of a value; what was safe stays safe. -/
def onText (f : List Char → List Char) (subject : Value) : Value :=
  match subject with
  | .string safe s => .string safe (f s)
  | value => .text (f value.printed)

def isSafe : Value → Bool
  | .string safe _ => safe
  | _ => false

/-- The texts of items with a text between them. Where markup is escaped and one of them is safe,
the others are escaped and the whole is safe. -/
def join (escaping : Escaping) (separator : Value) (items : List Value) : Value :=
  if escaping = .markup && (isSafe separator || items.any isSafe) then
    .string true (Text.joined (written .markup separator) (items.map (written .markup)))
  else .text (Text.joined separator.printed (items.map Value.printed))

/-- Replaces a part of a text. Where markup is escaped and any of the three is safe, the text and
the replacement are escaped if they are not, and the whole is safe. -/
def replace (escaping : Escaping) (subject part replacement : Value) : Value :=
  if escaping = .markup && [subject,part,replacement].any isSafe then
    .string true
      (Text.replaceAll part.printed (written .markup replacement) (written .markup subject))
  else .text (Text.replaceAll part.printed replacement.printed subject.printed)

def trimMatches (chars s : List Char) : List Char :=
  ((s.dropWhile chars.contains).reverse.dropWhile chars.contains).reverse

def lowerAscii (s : List Char) : List Char :=
  s.map fun c => if Text.isAsciiUpper c then Char.ofNat (c.toNat + 32) else c

def sortOrder (caseSensitive : Bool) (a b : Value) : Ordering :=
  match caseSensitive, a, b with
  | false, .string _ s, .string _ t => compare (lowerAscii s) (lowerAscii t)
  | _, a, b => a.order b

def sortBy (order : Value → Value → Ordering) (items : List Value) : List Value :=
  items.mergeSort fun a b => order a b != .gt

/-- The order by what several paths lead to, which are separated by commas. Items that lack one are
equal in it. -/
def attributesOrder (caseSensitive : Bool) (attributes : List Char) (a b : Value) : Ordering :=
  let paths := (Text.pieces ',' attributes).map Text.trim
  paths.foldl (fun found path => found.then (match a.path? path, b.path? path with
    | some a, some b => sortOrder caseSensitive a b
    | _, _ => .eq)) .eq

def sort (subject : Value) (args : Arguments) : Except Fault Value := do
  let some items := subject.iterate? | .error .badOperation
  if !args.positional.isEmpty then .error .badOperation
  else if !args.keywords.all fun k => k.1 ∈ ["case_sensitive","attribute","reverse"] then
    .error .badOperation
  else
    let caseSensitive ← flag? (args.keywords.lookup "case_sensitive")
    let descending ← flag? (args.keywords.lookup "reverse")
    let order ← match optionalArg (args.keywords.lookup "attribute") with
      | some (.string _ attributes) => .ok (attributesOrder caseSensitive attributes)
      | some _ => .error .badOperation
      | none => .ok (sortOrder caseSensitive)
    let order := if descending then fun a b => (order a b).swap else order
    .ok (.sequence (sortBy order items))

def first (subject : Value) : Except Fault Value :=
  match subject with
  | .string _ s => .ok ((s.head?.map fun c => Value.text [c]).getD .undefined)
  | value => match value.parts? with
    | some items => .ok (items.head?.getD .undefined)
    | none => .error .badOperation

def last (subject : Value) : Except Fault Value :=
  match subject with
  | .string safe s => .ok ((s.getLast?.map fun c => Value.string safe [c]).getD .undefined)
  | .list _ _ items => .ok (items.getLast?.getD .undefined)
  | _ => .error .badOperation

/-- The items or characters from the last to the first. The keys of a map stay in their order. -/
def reverse (subject : Value) : Except Fault Value :=
  match subject with
  | .string safe s => .ok (.string safe s.reverse)
  | .undefined => .ok .undefined
  | .none => .ok .none
  | .map _ entries => .ok (.iterable (entries.map (·.1)))
  | value => match value.parts? with
    | some items => .ok (.iterable items.reverse)
    | none => .error .badOperation

/-- The integer a value stands for; texts are read, and fractions cut off. -/
def int (subject : Value) : Except Fault Value :=
  let ofFloat (x : Binary64) : Value :=
    if x.isNaN then .int 0
    else if !x.isFinite then .int (if x.isNegative then -Int.pow 2 127 else Int.pow 2 127 - 1)
    else .int (max (-Int.pow 2 127) (min (Int.pow 2 127 - 1) (truncated x)))
  match subject with
  | .undefined => .ok (.int 0)
  | .none => .ok (.int 0)
  | .bool b => .ok (.int (if b then 1 else 0))
  | .int i => .ok (.int i)
  | .float x => .ok (ofFloat x)
  | .string _ s =>
    let (negative,digits) := match s with
      | '-' :: rest => (true,rest)
      | '+' :: rest => (false,rest)
      | s => (false,s)
    let whole := (if digits.all Text.isAsciiDigit then Text.natural? 10 digits else none).map
      fun n => if negative then -(n : Int) else n
    match whole.filter (InRange ·) with
    | some i => .ok (.int i)
    | none =>
      match Text.decimal? digits with
      | some (n,e) => .ok (ofFloat (.ofDecimal negative n e))
      | none =>
        let word := String.ofList (lowerAscii digits)
        if word == "inf" || word == "infinity" then .ok (ofFloat (.infinity negative))
        else if word == "nan" then .ok (.int 0)
        else .error .badOperation
  | _ => .error .badOperation

/-- The escaped form of a value. Where nothing is escaped by default it is escaped as markup. -/
def escape (subject : Value) : Value :=
  match subject with
  | .string true s => .string true s
  | value => .string true (written .markup value)

def default (subject : Value) (args : List Value) : Except Fault Value :=
  if 2 < args.length then .error .badOperation
  else
    let replacement := args[0]?.getD (.text [])
    let falseToo := (args[1]?.map Value.isTrue).getD false
    .ok (match subject with
      | .undefined => replacement
      | value => if falseToo && !value.isTrue then replacement else value)

/-- The names of filters. Those that are not applied here are only known to exist. -/
def names : List String :=
  ["safe","escape","e","nl","upper","lower","title","capitalize","length","count","default","d",
    "join","trim","replace","first","last","sort","reverse","items","string","int","list","bool",
    "abs","attr","batch","chain","dictsort","float","format","groupby","indent","lines","map",
    "max","min","pprint","reject","rejectattr","round","select","selectattr","slice","split","sum",
    "unique","zip"]

def apply (escaping : Escaping) (name : String) (subject : Value) (args : Arguments) :
    Except Fault Value :=
  let ps := args.positional
  let upTo (most : Nat) (result : Except Fault Value) : Except Fault Value :=
    if ps.length ≤ most && args.keywords.isEmpty then result else .error .badOperation
  if name = "safe" then upTo 0 (.ok (.string true subject.printed))
  else if name = "escape" ∨ name = "e" then upTo 0 (.ok (escape subject))
  else if name = "nl" then upTo 0 (.ok (.text (subject.printed ++ ['\n'])))
  else if name = "upper" then upTo 0 (.ok (onText Text.toUpper subject))
  else if name = "lower" then upTo 0 (.ok (onText Text.toLower subject))
  else if name = "title" then upTo 0 (.ok (.text (title true subject.printed)))
  else if name = "capitalize" then upTo 0 (.ok (onText capitalize subject))
  else if name = "length" ∨ name = "count" then
    upTo 0 (match subject.length? with
      | some n => .ok (.int n)
      | none => .error .badOperation)
  else if name = "default" ∨ name = "d" then default subject args.values
  else if name = "join" then
    upTo 1 (match subject.iterate? with
      | some items => .ok (join escaping ((optionalArg ps[0]?).getD (.text [])) items)
      | none => .error .badOperation)
  else if name = "trim" then
    upTo 1 (.ok (match optionalArg ps[0]? with
      | some chars => onText (trimMatches chars.printed) subject
      | none => onText Text.trim subject))
  else if name = "replace" then
    upTo 2 (match ps with
      | [part,replacement] => .ok (replace escaping subject part replacement)
      | _ => .error .badOperation)
  else if name = "first" then upTo 0 (first subject)
  else if name = "last" then upTo 0 (last subject)
  else if name = "sort" then sort subject args
  else if name = "reverse" then upTo 0 (reverse subject)
  else if name = "items" then
    upTo 0 (match subject.entries? with
      | some entries => .ok (.iterable (entries.map fun e => .sequence [e.1,e.2]))
      | none => .error .badOperation)
  else if name = "string" then
    upTo 0 (.ok (match subject with
      | .string safe s => .string safe s
      | value => .text value.printed))
  else if name = "int" then upTo 0 (int subject)
  else if name = "list" then
    upTo 0 (match subject.iterate? with
      | some items => .ok (.sequence items)
      | none => .error .badOperation)
  else if name = "bool" then upTo 0 (.ok (.bool subject.isTrue))
  else .error (.unknownFilter name)

end Filter

end ViewTemplates.Jinja
