import ViewTemplates.Text.Split

/-! Slash-separated paths. A path is the text as it was written; its parts decide equality, order
and prefixes, so spellings that differ in repeated slashes or inner dots name the same place. -/
namespace ViewTemplates.Path

inductive Part
  | root
  | current
  | parent
  | name (text : List Char)
deriving DecidableEq, Repr

/-- What a segment between slashes means inside a path: nothing, for the empty one and for a dot. -/
def Part.ofSegment? (segment : List Char) : Option Part :=
  if segment = [] ∨ segment = ['.'] then none
  else if segment = ['.','.'] then some .parent
  else some (.name segment)

def Part.text : Part → List Char
  | .root => ['/']
  | .current => ['.']
  | .parent => ['.','.']
  | .name text => text

/-- The parts of a path. A leading slash and a leading dot count. -/
def parts (path : List Char) : List Part :=
  let inner := (Text.pieces '/' path).filterMap Part.ofSegment?
  match path with
  | ['.'] => .current :: inner
  | '.' :: '/' :: _ => .current :: inner
  | '/' :: _ => .root :: inner
  | _ => inner

def ofParts : List Part → List Char
  | .root :: rest => '/' :: Text.joined ['/'] (rest.map Part.text)
  | ps => Text.joined ['/'] (ps.map Part.text)

/-- All parts between slashes; the root is a part whose own text is a slash. -/
def slashed (path : List Char) : List Char := Text.joined ['/'] ((parts path).map Part.text)

/-- The ordering key of a part: the root, then dots, then names by their characters. -/
def Part.key : Part → List Nat
  | .root => [0]
  | .current => [1]
  | .parent => [2]
  | .name text => 3 :: text.map Char.toNat

def key (path : List Char) : List (List Nat) := (parts path).map Part.key

def isBefore (a b : List Char) : Bool :=
  List.lex (key a) (key b) fun p q => List.lex p q fun m n => decide (m < n)

/-- In order of the parts; paths with the same parts keep the order they came in. -/
def sorted (paths : List String) : List String :=
  paths.mergeSort fun a b => !isBefore b.toList a.toList

def isAbsolute (path : List Char) : Bool := path.head? = some '/'

/-- A path below a directory; an absolute one stands for itself. -/
def join (directory path : List Char) : List Char :=
  if isAbsolute path then path
  else if directory.isEmpty ∨ directory.getLast? = some '/' then directory ++ path
  else directory ++ '/' :: path

/-- The path of a file, from the path of a directory and the names that lead to it from there. -/
def below (root : String) (names : List String) : String :=
  String.ofList (join root.toList (Text.joined ['/'] (names.map String.toList)))

/-- The path below `root`, or the whole path if it is not below it. -/
def relativeTo (root path : List Char) : List Char :=
  let below := parts root
  if below.isPrefixOf (parts path) then ofParts ((parts path).drop below.length) else path

def fileName? (path : List Char) : Option (List Char) :=
  match (parts path).getLast? with
  | some (.name text) => some text
  | _ => none

/-- A file name cut at its last dot, unless that is its first character. -/
def cutExtension? (name : List Char) : Option (List Char × List Char) :=
  match Text.cutLast? '.' name with
  | some (stem,extension) => if stem.isEmpty then none else some (stem,extension)
  | none => none

def extension? (path : List Char) : Option (List Char) := do
  let name ← fileName? path
  let (_,extension) ← cutExtension? name
  some extension

def stem (name : List Char) : List Char := ((cutExtension? name).map (·.1)).getD name

/-- The path without the extension of its file name. What is left of a name such as `..txt` is a
dot, the directory itself; where the path ends in that name, both dots are kept. -/
def withoutExtension (path : List Char) : List Char :=
  match fileName? path with
  | none => path
  | some name =>
    let stem := stem name
    let stem := if stem = ['.'] ∧ name.isSuffixOf path then ['.','.'] else stem
    match (parts path).dropLast with
    | [] => stem
    | directories => join (ofParts directories) stem

end ViewTemplates.Path
