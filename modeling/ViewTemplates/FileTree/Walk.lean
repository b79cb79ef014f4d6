import ViewTemplates.FileTree.Basic

/-! Walking a directory: every file below it, in the order of names at each level, links followed
and hidden names left out. -/
namespace ViewTemplates

def FileTree.isHidden (name : String) : Bool := name.toList.head? == some '.'

namespace Disk

open FileTree

/-- The place of an entry of the directory at `place`, to which `names` lead from `root`, if the
entry leads anywhere: a link is followed along its whole path. A link to a directory that the walk
is inside of leads nowhere. -/
def enter? (disk : Disk) (root : String) (inside : List Place) (place : Place)
    (names : List String) (name : String) (entry : FileTree) : Option Place :=
  match entry with
  | .link _ => do
    let next ← disk.place? (Path.below root (names ++ [name]))
    let found ← disk.tree.at? next
    if found.isDirectory && inside.contains next then none else some next
  | _ => some (place ++ [name])

/-- The files below the directory at `place`, as names from the directory where the walk began.
`inside` holds the places of the directories that the walk is inside of, `place` among them. -/
def walkFrom (disk : Disk) (root : String) (fuel : Nat) (inside : List Place)
    (place : Place) (names : List String) : List (List String) :=
  match fuel with
  | 0 => []
  | fuel + 1 =>
    match disk.tree.at? place with
    | some (.directory entries) =>
      entries.flatMap fun (name,entry) =>
        if isHidden name then []
        else match disk.enter? root inside place names name entry with
          | none => []
          | some next =>
            match disk.tree.at? next with
            | some (.directory _) => walkFrom disk root fuel (next :: inside) next (names ++ [name])
            | some (.file _) => [names ++ [name]]
            | _ => []
    | _ => []

/-- The files below the directory at `place`, which `root` leads to. A walk enters no directory by a
link that it is inside of already, and so goes no deeper than directories can follow each other. -/
def walk (disk : Disk) (root : String) (place : Place) : List (List String) :=
  let depth := (disk.tree.directoryCount + 1) * (disk.tree.directoryCount + 1)
  disk.walkFrom root depth [place] place []

end Disk

end ViewTemplates
