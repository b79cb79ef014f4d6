import ViewTemplates.Proofs.Paths
import ViewTemplates.Registry.Basic
import ViewTemplates.View.Files

/-! Names of template files. A path has the parts that its name is put together from, so a name and
the extension that was taken off make the path below the root again, and the encoder of the output
is found in what is left. -/
namespace ViewTemplates

namespace Path

/-- Parts with slashes between them; the root is a part whose own text is a slash. -/
def written (ps : List Part) : List Char := Text.joined ['/'] (ps.map Part.text)

/-- A part that can stand between two slashes. -/
def IsInner (part : Part) : Prop := '/' ∉ part.text ∧ Part.ofSegment? part.text = some part

/-- The parts that paths have: the root and a dot for the current directory come first or not at
all. -/
inductive IsSpelled : List Part → Prop
  | inner {ps : List Part} (inner : ∀ part ∈ ps, IsInner part) : IsSpelled ps
  | root {ps : List Part} (inner : ∀ part ∈ ps, IsInner part) : IsSpelled (.root :: ps)
  | current {ps : List Part} (inner : ∀ part ∈ ps, IsInner part) : IsSpelled (.current :: ps)

variable {path : List Char} {ps front : List Part} {part : Part}

theorem isInner_of_mem (member : part ∈ (Text.pieces '/' path).filterMap Part.ofSegment?) :
    IsInner part := by
  obtain ⟨segment,inPath,read⟩ := List.mem_filterMap.mp member
  obtain rfl := text_of_ofSegment? read
  exact ⟨Text.not_mem_of_mem_pieces inPath,read⟩

theorem isSpelled_parts (path : List Char) : IsSpelled (parts path) := by
  have inner : ∀ part ∈ (Text.pieces '/' path).filterMap Part.ofSegment?, IsInner part :=
    fun _ member => isInner_of_mem member
  unfold parts
  split
  · exact .current inner
  · exact .current inner
  · exact .root inner
  · exact .inner inner

namespace IsSpelled

theorem tail (spelled : IsSpelled (part :: ps)) : ∀ part ∈ ps, IsInner part := by
  cases spelled with
  | inner inner => exact (List.forall_mem_cons.mp inner).2
  | root inner => exact inner
  | current inner => exact inner

theorem right (spelled : IsSpelled (front ++ ps)) : IsSpelled ps := by
  cases front with
  | nil => exact spelled
  | cons first front => exact .inner (List.forall_mem_append.mp spelled.tail).2

theorem left (spelled : IsSpelled (front ++ ps)) : IsSpelled front := by
  cases front with
  | nil => exact .inner (List.forall_mem_nil _)
  | cons first front =>
    have later := (List.forall_mem_append.mp spelled.tail).1
    cases spelled with
    | inner inner => exact .inner (List.forall_mem_append.mp inner).1
    | root => exact .root later
    | current => exact .current later

end IsSpelled

/-! ### Parts that are written are read again -/

theorem filterMap_pieces_written (inner : ∀ part ∈ ps, IsInner part) :
    (Text.pieces '/' (written ps)).filterMap Part.ofSegment? = ps := by
  by_cases none : ps = []
  · subst none
    rfl
  · rw [written,Text.pieces_joined (by simpa using none)
      (List.forall_mem_map.mpr fun part member => (inner part member).1),List.filterMap_map]
    have read := List.filterMap_eq_map_iff_forall_eq_some (g := id) |>.mpr
      fun part member => (inner part member).2
    simpa using read

theorem parts_written_of_inner (inner : ∀ part ∈ ps, IsInner part) : parts (written ps) = ps := by
  have read := filterMap_pieces_written inner
  by_cases none : ps = []
  · subst none
    rfl
  · have proper : ∀ segment ∈ Text.pieces '/' (written ps), Part.ofSegment? segment ≠ .none := by
      rw [written,Text.pieces_joined (by simpa using none)
        (List.forall_mem_map.mpr fun part member => (inner part member).1)]
      refine List.forall_mem_map.mpr fun part member => ?_
      rw [(inner part member).2]
      exact Option.some_ne_none _
    generalize written ps = path at read proper
    unfold parts
    -- A dot or nothing before the first slash would be no part.
    split
    · exact absurd rfl (proper ['.'] (by simp [Text.pieces]))
    · exact absurd rfl (proper ['.'] (by simp [Text.pieces]))
    · exact absurd rfl (proper [] (by simp [Text.pieces]))
    · exact read

theorem parts_slash (path : List Char) :
    parts ('/' :: path) = .root :: (Text.pieces '/' path).filterMap Part.ofSegment? := by
  simp [parts,Text.pieces,Part.ofSegment?]

theorem written_cons (part : Part) {ps : List Part} (nonempty : ps ≠ []) :
    written (part :: ps) = part.text ++ '/' :: written ps := by
  obtain ⟨next,rest,rfl⟩ := List.exists_cons_of_ne_nil nonempty
  simp [written,Text.joined]

theorem parts_written (spelled : IsSpelled ps) : parts (written ps) = ps := by
  cases spelled with
  | inner inner => exact parts_written_of_inner inner
  | @root ps inner =>
    by_cases none : ps = []
    · subst none
      rfl
    · have again := filterMap_pieces_written inner
      rw [written_cons _ none]
      simpa [Part.text,parts_slash,Text.pieces,Part.ofSegment?] using again
  | @current ps inner =>
    by_cases none : ps = []
    · subst none
      rfl
    · have again := filterMap_pieces_written inner
      rw [written_cons _ none]
      simpa [Part.text,parts,Text.pieces,Part.ofSegment?] using again

theorem parts_ofParts (spelled : IsSpelled ps) : parts (ofParts ps) = ps := by
  cases spelled with
  | inner inner =>
    have same : ofParts ps = written ps := by
      unfold ofParts
      split
      next => exact absurd (by simp [Part.text]) (inner .root List.mem_cons_self).1
      next => rfl
    rw [same,parts_written_of_inner inner]
  | root inner => exact (parts_slash _).trans (congrArg _ (filterMap_pieces_written inner))
  | current inner => exact parts_written (.current inner)

theorem ofParts_ne_nil (spelled : IsSpelled ps) (nonempty : ps ≠ []) : ofParts ps ≠ [] := by
  intro empty
  have read := parts_ofParts spelled
  rw [empty] at read
  exact nonempty read.symm

/-! ### The last part -/

theorem isInner_name {text : List Char} (slashless : '/' ∉ text) (nonempty : text ≠ [])
    (visible : text.head? ≠ some '.') : IsInner (.name text) := by
  refine ⟨slashless,?_⟩
  cases text with
  | nil => contradiction
  | cons c text =>
    have differs : c ≠ '.' := by simpa using visible
    simp [Part.ofSegment?,Part.text,differs]

theorem fileName?_of_parts {file : List Char} (ends : parts path = ps ++ [.name file]) :
    fileName? path = some file := by
  rw [fileName?,ends,List.getLast?_concat]

theorem parts_relativeTo {root : List Char} (below : parts path = parts root ++ ps) :
    parts (relativeTo root path) = ps := by
  have starts : (parts root).isPrefixOf (parts path) = true := by simp [below]
  have spelled : IsSpelled ps := (below ▸ isSpelled_parts path).right
  rw [relativeTo]
  simp only [starts,if_true]
  rw [below,List.drop_left,parts_ofParts spelled]

theorem cutExtension?_eq_some_iff {file stem extension : List Char} :
    cutExtension? file = some (stem,extension) ↔
      file = stem ++ '.' :: extension ∧ '.' ∉ extension ∧ stem ≠ [] := by
  rw [← and_assoc,← Text.cutLast?_eq_some_iff,cutExtension?]
  split
  next before after found =>
    rw [found]
    split <;> grind
  next none => simp [none]

theorem parts_withoutExtension {stem extension : List Char}
    (ends : parts path = ps ++ [.name (stem ++ '.' :: extension)]) (undotted : '.' ∉ extension)
    (visible : (stem ++ '.' :: extension).head? ≠ some '.') :
    parts (withoutExtension path) = ps ++ [.name stem] := by
  have nonempty : stem ≠ [] := by
    rintro rfl
    exact visible rfl
  have visible : stem.head? ≠ some '.' := by
    rwa [List.head?_append_of_ne_nil _ nonempty] at visible
  have slashless : '/' ∉ stem := by
    have onPath : .name (stem ++ '.' :: extension) ∈ parts path := by simp [ends]
    exact fun member => slash_not_mem_of_mem_parts onPath (List.mem_append_left _ member)
  have last : ∀ part ∈ [Part.name stem], IsInner part :=
    List.forall_mem_singleton.mpr (isInner_name slashless nonempty visible)
  have cut : Path.stem (stem ++ '.' :: extension) = stem := by
    rw [Path.stem,cutExtension?_eq_some_iff.mpr ⟨rfl,undotted,nonempty⟩]
    rfl
  have notDot : stem ≠ ['.'] := by
    rintro rfl
    exact visible rfl
  simp only [withoutExtension,fileName?_of_parts ends,cut,notDot,false_and,if_false,ends,
    List.dropLast_concat]
  split
  next => exact parts_written_of_inner last
  next some =>
    have spelled : IsSpelled ps := (ends ▸ isSpelled_parts path).left
    have relative : isAbsolute stem = false := by
      cases stem with
      | nil => rfl
      | cons c stem => simpa [isAbsolute,eq_comm] using fun same => slashless (by simp [same])
    rw [parts_join (ofParts_ne_nil spelled some) relative,parts_ofParts spelled]
    exact congrArg (ps ++ ·) (filterMap_pieces_written last)

end Path

namespace TemplateFiles

open ViewTemplates.Path (Part parts written)

/-- A file below a directory: the parts that follow those of the directory, the last of which is its
name. The name does not begin with a dot, and it has an extension. -/
structure IsFile (root path : String) (directories : List Part) (file : List Char)
    (extension : String) : Prop where
  below : parts path.toList = parts root.toList ++ (directories ++ [.name file])
  visible : file.head? ≠ some '.'
  extended : engineExtension? path = some extension

variable {root path : String} {directories : List Part} {file : List Char} {extension : String}

theorem IsFile.slash_not_mem (isFile : IsFile root path directories file extension) :
    '/' ∉ file := by
  have onPath : .name file ∈ parts path.toList := by
    rw [isFile.below,← List.append_assoc]
    exact List.mem_concat_self
  exact Path.slash_not_mem_of_mem_parts onPath

/-- A name is written without the extension, which begins at the last dot of the file. -/
theorem IsFile.exists_stem (isFile : IsFile root path directories file extension) : ∃ stem,
    file = stem ++ '.' :: extension.toList ∧ '.' ∉ extension.toList ∧
      Path.IsSpelled (directories ++ [.name stem]) ∧
      name path root = String.ofList (written (directories ++ [.name stem])) := by
  obtain ⟨below,visible,extended⟩ := isFile
  obtain ⟨stem,cut⟩ : ∃ stem, Path.cutExtension? file = some (stem,extension.toList) := by
    rw [← List.append_assoc] at below
    rw [engineExtension?,Path.extension?,Path.fileName?_of_parts below] at extended
    cases found : Path.cutExtension? file with
    | none => simp [found] at extended
    | some both =>
      obtain ⟨stem,after⟩ := both
      have same : String.ofList after = extension := by simpa [found] using extended
      exact ⟨stem,by rw [← same,String.toList_ofList]⟩
  obtain ⟨rfl,undotted,-⟩ := Path.cutExtension?_eq_some_iff.mp cut
  have left := Path.parts_withoutExtension (Path.parts_relativeTo below) undotted visible
  refine ⟨stem,rfl,undotted,left ▸ Path.isSpelled_parts _,?_⟩
  rw [name,Path.slashed,left,written]

theorem written_append_extension (stem ending : List Char) :
    written (directories ++ [.name (stem ++ ending)]) =
      written (directories ++ [.name stem]) ++ ending := by
  by_cases none : directories = []
  · subst none
    rfl
  · have some : directories.map Part.text ≠ [] := by simpa using none
    simp only [written,List.map_append,List.map_singleton,Text.joined_concat some,Part.text,
      List.append_assoc]

/-- The name of a file and its extension make the path below the root, and files of one name differ
in the extension only. A format is what a name ends in after a dot, and the encoder of a file is the
one for the format before its extension. -/
theorem name_splits (root : String) :
    (∀ path directories file extension, IsFile root path directories file extension →
      name path root ++ "." ++ extension =
        String.ofList (written (directories ++ [.name file]))) ∧
    (∀ path directories file extension, IsFile root path directories file extension →
      ∀ other directories' file' extension', IsFile root other directories' file' extension' →
        name path root = name other root → directories = directories' ∧
          ∃ stem, file = stem ++ '.' :: extension.toList ∧
            file' = stem ++ '.' :: extension'.toList) ∧
    (∀ template format, Naming.format? template = some format ↔
      format ≠ "" ∧ '.' ∉ format.toList ∧ '/' ∉ format.toList ∧
        ∃ stem, template = stem ++ "." ++ format) ∧
    ∀ path directories extension stem format,
      IsFile root path directories (stem ++ '.' :: format ++ '.' :: extension.toList) extension →
      format ≠ [] → '.' ∉ format → ∀ registry : Registry,
        registry.encoder? (name path root) = registry.encoders.find? (String.ofList format) := by
  refine ⟨?_,?_,fun _ _ => Naming.format?_eq_some_iff,?_⟩
  · intro path directories file extension isFile
    obtain ⟨stem,rfl,-,-,named⟩ := isFile.exists_stem
    rw [named,written_append_extension]
    exact String.toList_inj.mp (by simp)
  · intro path directories file extension isFile other directories' file' extension' isFile' same
    obtain ⟨stem,rfl,-,spelled,named⟩ := isFile.exists_stem
    obtain ⟨stem',rfl,-,spelled',named'⟩ := isFile'.exists_stem
    rw [named,named'] at same
    have read := congrArg parts (String.ofList_injective same)
    rw [Path.parts_written spelled,Path.parts_written spelled'] at read
    obtain ⟨rfl,last⟩ := List.append_inj' read rfl
    obtain rfl : stem = stem' := by simpa using last
    exact ⟨rfl,stem,rfl,rfl⟩
  · intro path directories extension stem format isFile nonempty undotted registry
    obtain ⟨stem',same,-,spelled,named⟩ := isFile.exists_stem
    obtain rfl : stem ++ '.' :: format = stem' := List.append_inj_left' same rfl
    have slashless : '/' ∉ format := fun member => isFile.slash_not_mem (by simp [member])
    have ended : Naming.format? (name path root) = some (String.ofList format) := by
      refine Naming.format?_eq_some_iff.mpr ⟨by simpa using nonempty,by simpa using undotted,
        by simpa using slashless,String.ofList (written (directories ++ [.name stem])),?_⟩
      rw [named,written_append_extension]
      exact String.toList_inj.mp (by simp)
    rw [Registry.encoder?,ended]
    rfl

/-- A path with dots and slashes beyond need, in a directory with a dot in its name. -/
def dottedPage : String := "/t/./a.b//s..html.jinja"

theorem name_splits_dotted :
    IsFile "/t" dottedPage [.name "a.b".toList] "s..html.jinja".toList "jinja" ∧
    name dottedPage "/t" ++ "." ++ "jinja" = "a.b/s..html.jinja" ∧
    (∃ stem, "s..html.jinja".toList = stem ++ '.' :: "jinja".toList ∧
      "s..html.j2".toList = stem ++ '.' :: "j2".toList) ∧
    Registry.default.encoder? (name dottedPage "/t") = Registry.default.encoders.find? "html" := by
  have isFile : IsFile "/t" dottedPage [.name "a.b".toList] "s..html.jinja".toList "jinja" :=
    ⟨by decide +kernel,by decide +kernel,by decide +kernel⟩
  have other : IsFile "/t" "/t/a.b/s..html.j2" [.name "a.b".toList] "s..html.j2".toList "j2" :=
    ⟨by decide +kernel,by decide +kernel,by decide +kernel⟩
  obtain ⟨relative,alike,-,encoder⟩ := name_splits "/t"
  refine ⟨isFile,(relative _ _ _ _ isFile).trans (by decide +kernel),?_,?_⟩
  · exact (alike _ _ _ _ isFile _ _ _ _ other (by decide +kernel)).2
  · have cut : "s..html.jinja".toList =
        "s.".toList ++ '.' :: "html".toList ++ '.' :: "jinja".toList := by decide
    rw [cut] at isFile
    exact encoder _ _ _ _ "html".toList isFile (by decide) (by decide) _

end TemplateFiles

end ViewTemplates
