import ViewTemplates.Json.Text

/-! Data as comma-separated values. Every element flattens to named cells; the names of all
elements, in ascending order, are the header. -/
namespace ViewTemplates.Csv

mutual

/-- The named cells of an element in the order they are met. Members are named by the keys that
lead to them, joined by dots; the element itself is named `value`. -/
def cells (path : String) : Json → List (String × String)
  | .null => []
  | .object [] => [(if path = "" then "value" else path,"\x7b\x7d")]
  | .object members => memberCells path members
  | leaf => [(if path = "" then "value" else path,leaf.bareText)]

def memberCells (path : String) : List (String × Json) → List (String × String)
  | [] => []
  | (key,value) :: rest =>
    cells (if path = "" then key else path ++ "." ++ key) value ++ memberCells path rest

end

/-- A table: header and rows, each row with one cell per header. -/
structure Table where
  headers : List String
  rows : List (List String)
deriving DecidableEq, Repr

def elements : Json → List Json
  | .array items => items
  | value => [value]

def rowMap (element : Json) : Entries String := Entries.ofList (cells "" element)

def headersOf (rows : List (Entries String)) : List String :=
  (Entries.ofList ((rows.flatMap Entries.keys).map fun key => (key,()))).keys

def flatten (value : Json) : Table :=
  let rows := (elements value).map rowMap
  let headers := headersOf rows
  ⟨headers,rows.map fun row => headers.map fun header => (row.find? header).getD ""⟩

def needsQuotes (c : Char) : Bool := c == ',' || c == '"' || c == '\n' || c == '\r'

/-- A field is quoted only where it has to be; a quote inside is written twice. -/
def field (s : List Char) : List Char :=
  if s.any needsQuotes then
    '"' :: s.flatMap (fun c => if c = '"' then ['"','"'] else [c]) ++ ['"']
  else s

/-- A record and its line feed. A record that would be an empty line is written as two quotes. -/
def record (fields : List String) : List Char :=
  let line := Text.joined [','] (fields.map fun f => field f.toList)
  (if line.isEmpty then ['"','"'] else line) ++ ['\n']

/-- Why records are not written: one has not as many fields as those before it. -/
structure Unequal where
  expected : Nat
  found : Nat
deriving DecidableEq, Repr

def Unequal.message (fault : Unequal) : String :=
  "CSV error: found record with " ++ toString fault.found ++
    " fields, but the previous record has " ++ toString fault.expected ++ " fields"

def writeRecords (width : Nat) : List (List String) → Except Unequal (List Char)
  | [] => .ok []
  | fields :: rest =>
    if fields.length = width then (writeRecords width rest).map (record fields ++ ·)
    else .error ⟨width,fields.length⟩

namespace Table

def records (table : Table) : List (List String) := table.headers :: table.rows

def write (table : Table) : Except Unequal (List Char) :=
  writeRecords table.headers.length table.records

end Table

end ViewTemplates.Csv
