import ViewTemplates.Text.Utf8

/-! Globs: file patterns with wildcards, character classes and alternatives. -/
namespace ViewTemplates.Glob

/-- A piece of a pattern. Wildcards match bytes, so one that matches a single byte does not match
a character beyond ASCII. -/
inductive Token
  | literal (c : Char)
  | any
  | star
  /-- Directories before the rest of the path, or none. -/
  | leading
  /-- A slash and everything after it. -/
  | trailing
  /-- A slash, or directories between slashes. -/
  | middle
  | byteClass (negated : Bool) (ranges : List (UInt8 × UInt8))
  | alternatives (branches : List (List Token))

/-- Bytes of a range between two characters: from the last byte of the one to the first byte of
the other, and their other bytes. -/
def byteRanges (first last : Char) : Option (List (UInt8 × UInt8)) :=
  let low := String.utf8EncodeChar first
  if first = last then some (low.map fun b => (b,b))
  else
    let high := String.utf8EncodeChar last
    match low.getLast?, high.head? with
    | some l, some h =>
      if l ≤ h then
        some (low.dropLast.map (fun b => (b,b)) ++ (l,h) :: high.tail.map fun b => (b,b))
      else none
    | _, _ => none

/-- A class being read: its ranges, last first, and whether the last one waits for its end after a
hyphen. -/
structure ClassState where
  ranges : List (Char × Char)
  inRange : Bool

namespace ClassState

def addChar (s : ClassState) (c : Char) : Option ClassState :=
  match s.inRange, s.ranges with
  | true, (first,_) :: rest => if c < first then none else some ⟨(first,c) :: rest,false⟩
  | _, ranges => some ⟨(c,c) :: ranges,false⟩

def finish (s : ClassState) : List (Char × Char) :=
  (if s.inRange then ('-','-') :: s.ranges else s.ranges).reverse

/-- The characters of a class up to its closing bracket. The first one always stands for itself,
and so does a hyphen that no character precedes or follows. -/
def read (first : Bool) (s : ClassState) : List Char → Option (List (Char × Char) × List Char)
  | [] => none
  | c :: rest =>
    if c = ']' ∧ !first then some (s.finish,rest)
    else if c = '-' ∧ !first ∧ !s.inRange then read false { s with inRange := true } rest
    else do
      let s ← s.addChar c
      read false s rest

end ClassState

def readClass (s : List Char) : Option (Token × List Char) := do
  let (negated,s) := match s with
    | '!' :: rest => (true,rest)
    | '^' :: rest => (true,rest)
    | s => (false,s)
  let (ranges,rest) ← ClassState.read true ⟨[],false⟩ s
  let bytes ← ranges.mapM fun r => byteRanges r.1 r.2
  some (.byteClass negated bytes.flatten,rest)

/-- The last piece gives way to directories, unless it stands for directories already. -/
def absorb (replacement : Token) : List Token → List Token
  | .leading :: before => .leading :: before
  | .trailing :: before => .trailing :: before
  | _ :: before => replacement :: before
  | [] => [replacement]

/-- The pieces after two stars. They span directories where they stand alone between slashes or at
an end of the pattern or, in a group, of an alternative; elsewhere each star is a wildcard.
`tokens` are the pieces so far, last first. -/
def readStars (inGroup : Bool) (previous : Option Char) (tokens : List Token) (rest : List Char) :
    List Token × List Char :=
  let wildcards := (.star :: .star :: tokens,rest)
  match tokens, rest with
  | [], [] => ([.leading],[])
  | [], '/' :: after => ([.leading],after)
  | [], _ => wildcards
  | tokens, rest =>
    let startsPart :=
      previous == some '/' || (inGroup && (previous == some ',' || previous == some '{'))
    if !startsPart then wildcards
    else match rest with
      | [] => (absorb .trailing tokens,[])
      | '/' :: after => (absorb .middle tokens,after)
      | c :: _ =>
        if inGroup && (c == ',' || c == '}') then (absorb .trailing tokens,rest) else wildcards

/-- An open group: its finished alternatives and the pieces of the current one, last first. -/
structure Group where
  branches : List (List Token)
  tokens : List Token

namespace Group

def start : Group := ⟨[],[]⟩

def push (g : Group) (token : Token) : Group := { g with tokens := token :: g.tokens }

def nextBranch (g : Group) : Group := ⟨g.tokens.reverse :: g.branches,[]⟩

def toToken (g : Group) : Token := .alternatives g.nextBranch.branches.reverse

end Group

/-- Reads a pattern inside the groups `outer`; `previous` is the character before. -/
def parseFrom (fuel : Nat) (outer : List Group) (g : Group) (previous : Option Char)
    (s : List Char) : Option (List Token) :=
  match fuel with
  | 0 => none
  | fuel + 1 =>
    match s with
    | [] => if outer.isEmpty then some g.tokens.reverse else none
    | '?' :: rest => parseFrom fuel outer (g.push .any) (some '?') rest
    | '*' :: '*' :: rest =>
      let (tokens,after) := readStars (!outer.isEmpty) previous g.tokens rest
      let last := if after.length < rest.length then '/' else '*'
      parseFrom fuel outer { g with tokens := tokens } (some last) after
    | '*' :: rest => parseFrom fuel outer (g.push .star) (some '*') rest
    | '[' :: rest => do
      let (token,rest) ← readClass rest
      parseFrom fuel outer (g.push token) (some ']') rest
    | '{' :: rest => parseFrom fuel (g :: outer) Group.start (some '{') rest
    | '}' :: rest =>
      match outer with
      | [] => none
      | around :: outer => parseFrom fuel outer (around.push g.toToken) (some '}') rest
    | ',' :: rest =>
      if outer.isEmpty then parseFrom fuel outer (g.push (.literal ',')) (some ',') rest
      else parseFrom fuel outer g.nextBranch (some ',') rest
    | '\\' :: rest =>
      match rest with
      | [] => none
      | c :: rest => parseFrom fuel outer (g.push (.literal c)) (some c) rest
    | c :: rest => parseFrom fuel outer (g.push (.literal c)) (some c) rest

def parse? (pattern : String) : Option (List Token) :=
  let s := pattern.toList
  parseFrom (s.length + 1) [] Group.start none s

end ViewTemplates.Glob
