import ViewTemplates.KeyMap
import ViewTemplates.Path
import ViewTemplates.Text.Utf8

/-! A tree of directories, files and symbolic links, and the disk that a program sees: a tree and
the directory the program works in. An absolute path or target of a link starts at the top of the
tree, a relative path in the directory of the program, and a relative target in that of the link. -/
namespace ViewTemplates

inductive FileTree
  | file (bytes : Utf8.Bytes)
  | link (target : String)
  | directory (entries : List (String × FileTree))

namespace FileTree

instance : Inhabited FileTree := ⟨.directory []⟩

def empty : FileTree := .directory []

/-- Names from the top, no links among them. -/
abbrev Place := List String

def child? (tree : FileTree) (name : String) : Option FileTree :=
  match tree with
  | .directory entries => Entries.find? name entries
  | _ => none

def at? (tree : FileTree) (place : Place) : Option FileTree := place.foldlM child? tree

def directoryCount : FileTree → Nat
  | .directory entries => 1 + countAll entries
  | _ => 0
where
  countAll : List (String × FileTree) → Nat
    | [] => 0
    | (_,tree) :: rest => directoryCount tree + countAll rest

def isDirectory : FileTree → Bool
  | .directory _ => true
  | _ => false

/-- Steps from the directory at `place`; where a step meets a link, `follow` goes on from there. The
top is its own parent. -/
def resolveWith (tree : FileTree) (follow : Place → List Path.Part → Option Place)
    (place : Place) : List Path.Part → Option Place
  | [] => some place
  | .root :: rest => resolveWith tree follow [] rest
  | .current :: rest => resolveWith tree follow place rest
  | .parent :: rest =>
    if (tree.at? place).any isDirectory then resolveWith tree follow place.dropLast rest else none
  | .name text :: rest => do
    let name := String.ofList text
    let here ← tree.at? place
    match ← here.child? name with
    | .link target => follow place (Path.parts target.toList ++ rest)
    | _ => resolveWith tree follow (place ++ [name]) rest

/-- The place that parts lead to from a directory, when links are followed `links` times at most. -/
def resolve (tree : FileTree) : Nat → Place → List Path.Part → Option Place
  | 0, place, parts => resolveWith tree (fun _ _ => none) place parts
  | links + 1, place, parts => resolveWith tree (resolve tree links) place parts

def linkLimit : Nat := 40

/-- Puts a tree at a place, with the directories on the way there. -/
def put (tree : FileTree) (place : Place) (new : FileTree) : FileTree :=
  match place with
  | [] => new
  | name :: rest =>
    let entries := match tree with
      | .directory entries => entries
      | _ => []
    .directory (Entries.insert name
      (put ((Entries.find? name entries).getD empty) rest new) entries)

def take (tree : FileTree) (place : Place) : FileTree :=
  match place with
  | [] => tree
  | [name] =>
    match tree with
    | .directory entries => .directory (Entries.erase name entries)
    | tree => tree
  | name :: rest =>
    match tree with
    | .directory entries =>
      match Entries.find? name entries with
      | some found => .directory (Entries.insert name (take found rest) entries)
      | none => tree
    | tree => tree

def makeDirectories (tree : FileTree) (place : Place) :
    List Path.Part → Option (FileTree × Place)
  | [] => some (tree,place)
  | part :: rest => do
    match tree.resolve linkLimit place [part] with
    | some next =>
      if (tree.at? next).isSome then makeDirectories tree next rest
      else makeDirectories (tree.put next empty) next rest
    | none =>
      match part with
      | .name text =>
        let next := place ++ [String.ofList text]
        if (tree.at? next).isSome then none
        else makeDirectories (tree.put next empty) next rest
      | _ => none

/-- Writes a tree at a path, directories on the way included. A file written where a link stands
goes to where the link leads. -/
def write (tree : FileTree) (path : String) (new : FileTree) (here : Place := []) :
    Option FileTree := do
  let parts := Path.parts path.toList
  match parts.getLast? with
  | some (.name text) =>
    let (tree,place) ← tree.makeDirectories here parts.dropLast
    let next := place ++ [String.ofList text]
    match new, tree.at? next with
    | .directory _, some _ => some tree
    | .file _, some (.link target) =>
      let place ← tree.resolve linkLimit place (Path.parts target.toList)
      some (tree.put place new)
    | _, _ => some (tree.put next new)
  | _ => some tree

/-- Removes what a path names; a link itself, not what it leads to. -/
def remove (tree : FileTree) (path : String) (here : Place := []) : FileTree :=
  let parts := Path.parts path.toList
  match parts.getLast?, tree.resolve linkLimit here parts.dropLast with
  | some (.name text), some place => tree.take (place ++ [String.ofList text])
  | _, _ => tree

end FileTree

/-- A tree as a program sees it that works at the place `here`, where relative paths start. -/
structure Disk where
  tree : FileTree
  here : FileTree.Place := []

namespace Disk

/-- A tree seen from its top. -/
instance : Coe FileTree Disk := ⟨fun tree => { tree := tree }⟩

/-- The place of a file or directory, links followed. The empty path names none. -/
def place? (disk : Disk) (path : String) : Option FileTree.Place :=
  if path.isEmpty then none
  else disk.tree.resolve FileTree.linkLimit disk.here (Path.parts path.toList)

def find? (disk : Disk) (path : String) : Option FileTree := do
  let place ← disk.place? path
  disk.tree.at? place

def read? (disk : Disk) (path : String) : Option Utf8.Bytes := do
  match ← disk.find? path with
  | .file bytes => some bytes
  | _ => none

end Disk

end ViewTemplates
