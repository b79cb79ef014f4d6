import ViewTemplates.FileTree.Walk
import ViewTemplates.Glob.Match
import ViewTemplates.Sha256
import ViewTemplates.Text.Hex

/-! The template files below a directory, the names of their templates, and the digest by which
additions and removals are noticed. -/
namespace ViewTemplates.TemplateFiles

def dropDots (s : List Char) : List Char := s.dropWhile (· == '.')

/-- Extensions without their leading dots, in ascending order and each once. -/
def normalized (extensions : List String) : List String :=
  (Entries.ofList (extensions.map fun e => (String.ofList (dropDots e.toList),()))).keys

theorem mem_normalized_iff {extensions : List String} {word : String} :
    word ∈ normalized extensions ↔
      ∃ extension ∈ extensions, String.ofList (dropDots extension.toList) = word := by
  rw [normalized,Entries.mem_keys_ofList]
  simp

def glob (pattern : String) (extensions : List String) : String :=
  match normalized extensions with
  | [single] => pattern ++ "." ++ single
  | many =>
    let choices := Text.joined [','] (many.map String.toList)
    pattern ++ ".\x7b" ++ String.ofList choices ++ "\x7d"

/-- The files below `root` that match, in ascending order. Without extensions, or where the root is
no directory or the pattern no glob, there are none. -/
def find (disk : Disk) (root pattern : String) (extensions : List String) : List String :=
  if extensions.isEmpty then []
  else match disk.place? root, Glob.parse? (glob pattern extensions) with
    | some place, some glob =>
      let files := (disk.walk root place).filterMap fun names =>
        let relative := Text.joined ['/'] (names.map String.toList)
        if Glob.isMatch glob relative then
          some (Path.below root names)
        else none
      Path.sorted files
    | _, _ => []

/-- The bytes that stand for a set of paths: each path as it is written and a zero byte. -/
def digestInput (paths : List String) : Utf8.Bytes :=
  (Path.sorted paths).flatMap fun path => Utf8.encode path.toList ++ [0]

structure Digest where
  bytes : List UInt8
deriving DecidableEq, Repr

namespace Digest

def ofPaths (paths : List String) : Digest := ⟨Sha256.digest (digestInput paths)⟩

def hex (digest : Digest) : String := Text.hexText digest.bytes

def label (digest : Digest) : String := "TemplateHash(" ++ digest.hex ++ ")"

end Digest

def digest (disk : Disk) (root pattern : String) (extensions : List String) : Digest :=
  .ofPaths (find disk root pattern extensions)

/-- The template name of a file: its path below the root without its last extension. -/
def name (path root : String) : String :=
  String.ofList (Path.slashed (Path.withoutExtension (Path.relativeTo root.toList path.toList)))

def engineExtension? (path : String) : Option String :=
  (Path.extension? path.toList).map String.ofList

end ViewTemplates.TemplateFiles
