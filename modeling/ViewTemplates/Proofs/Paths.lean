import Mathlib.Data.List.Lex
import Mathlib.Order.Lex
import ViewTemplates.Path

/-! Paths of files below a directory: a path has the parts of the directory and then the names that
lead to the file, so those names can be read off it, and two files have the same place in the order
of paths only if the same names lead to them. -/
namespace ViewTemplates

/-- A name that an entry of a directory can have. -/
def IsFileName (name : String) : Prop :=
  name ∉ ["",".",".."] ∧ '/' ∉ name.toList ∧ '\x00' ∉ name.toList

instance (name : String) : Decidable (IsFileName name) := inferInstanceAs (Decidable (_ ∧ _))

namespace Path

theorem ofSegment?_of_isFileName {name : String} (named : IsFileName name) :
    Part.ofSegment? name.toList = some (.name name.toList) := by
  obtain ⟨other,-,-⟩ := named
  have differs (text : String) (among : text ∈ ["",".",".."]) : name.toList ≠ text.toList :=
    fun same => other (String.toList_inj.mp same ▸ among)
  have empty := differs "" (by simp)
  have current := differs "." (by simp)
  have parent := differs ".." (by simp)
  simp_all [Part.ofSegment?]

variable {root name : String} {path : List Char} {names : List String}

/-! ### Parts -/

theorem text_of_ofSegment? {segment : List Char} {part : Part}
    (read : Part.ofSegment? segment = some part) :
    part.text = segment := by
  unfold Part.ofSegment? at read
  split at read
  next => contradiction
  next =>
    split at read
    next parent => rw [← Option.some.inj read,parent]; rfl
    next => rw [← Option.some.inj read]; rfl

theorem name_mem_parts_iff {text : List Char} :
    .name text ∈ parts path ↔
      text ∈ Text.pieces '/' path ∧ Part.ofSegment? text = some (.name text) := by
  have inner : .name text ∈ (Text.pieces '/' path).filterMap Part.ofSegment? ↔
      text ∈ Text.pieces '/' path ∧ Part.ofSegment? text = some (.name text) := by
    rw [List.mem_filterMap]
    constructor
    · rintro ⟨segment,member,read⟩
      obtain rfl : text = segment := text_of_ofSegment? read
      exact ⟨member,read⟩
    · rintro ⟨member,read⟩
      exact ⟨text,member,read⟩
  rw [← inner]
  simp only [parts]
  split <;> simp

theorem slash_not_mem_of_mem_parts {text : List Char} (member : .name text ∈ parts path) :
    '/' ∉ text :=
  Text.not_mem_of_mem_pieces (name_mem_parts_iff.mp member).1

theorem isFileName_of_mem_parts {text : List Char} (noNul : '\x00' ∉ path)
    (member : .name text ∈ parts path) : IsFileName (String.ofList text) := by
  obtain ⟨inPath,read⟩ := name_mem_parts_iff.mp member
  refine ⟨fun among => ?_,?_,?_⟩
  · simp only [List.mem_cons,List.not_mem_nil,or_false] at among
    rcases among with same | same | same <;>
    · have chars := congrArg String.toList same
      rw [String.toList_ofList] at chars
      subst chars
      contradiction
  · rw [String.toList_ofList]
    exact slash_not_mem_of_mem_parts member
  · rw [String.toList_ofList]
    intro inText
    rw [← Text.joined_pieces '/' path] at noNul
    exact noNul (Text.mem_joined inPath inText)

theorem parts_append (nonempty : path ≠ []) (rest : List Char) :
    parts (path ++ '/' :: rest) =
      parts path ++ (Text.pieces '/' rest).filterMap Part.ofSegment? := by
  simp only [parts,Text.pieces_append,List.filterMap_append]
  rcases path with _ | ⟨c,_ | ⟨d,path⟩⟩
  · contradiction
  · grind
  · grind

/-- A path below a directory: the parts of the directory, and then its own. -/
theorem parts_join {directory : List Char} (nonempty : directory ≠ [])
    (relative : isAbsolute path = false) : parts (join directory path) =
      parts directory ++ (Text.pieces '/' path).filterMap Part.ofSegment? := by
  simp only [join,relative,Bool.false_eq_true,if_false,List.isEmpty_iff,nonempty,false_or]
  split
  next slash =>
    obtain ⟨front,rfl⟩ := List.getLast?_eq_some_iff.mp slash
    rw [List.append_assoc,List.singleton_append]
    rcases front with _ | ⟨c,front⟩
    · simp [parts,Text.pieces,Part.ofSegment?]
    · rw [parts_append (by simp),parts_append (by simp)]
      simp [Text.pieces,Part.ofSegment?]
  next => exact parts_append nonempty path

/-! ### Files below a directory -/

theorem filterMap_pieces_joined (nonempty : names ≠ []) (named : ∀ name ∈ names, IsFileName name) :
    (Text.pieces '/' (Text.joined ['/'] (names.map String.toList))).filterMap Part.ofSegment? =
      names.map fun name => .name name.toList := by
  have noSlash : ∀ segment ∈ names.map String.toList, '/' ∉ segment := by
    intro segment member
    obtain ⟨name,inNames,rfl⟩ := List.mem_map.mp member
    exact (named name inNames).2.1
  rw [Text.pieces_joined (by simpa using nonempty) noSlash,List.filterMap_map]
  refine List.filterMap_eq_map_iff_forall_eq_some.mpr fun name member => ?_
  exact ofSegment?_of_isFileName (named name member)

theorem isAbsolute_joined (nonempty : names ≠ []) (named : ∀ name ∈ names, IsFileName name) :
    isAbsolute (Text.joined ['/'] (names.map String.toList)) = false := by
  obtain ⟨name,rest,rfl⟩ := List.exists_cons_of_ne_nil nonempty
  obtain ⟨other,noSlash,-⟩ := named name List.mem_cons_self
  have some : name.toList ≠ [] := fun empty => other (by simp [String.toList_eq_nil_iff.mp empty])
  obtain ⟨c,chars,same⟩ := List.exists_cons_of_ne_nil some
  have differs : c ≠ '/' := fun slash => noSlash (by simp [same,slash])
  cases rest <;> simp [isAbsolute,Text.joined,same,differs]

theorem parts_below (rooted : root ≠ "") (nonempty : names ≠ [])
    (named : ∀ name ∈ names, IsFileName name) :
    parts (below root names).toList =
      parts root.toList ++ names.map fun name => .name name.toList := by
  have text : root.toList ≠ [] := fun empty => rooted (String.toList_eq_nil_iff.mp empty)
  rw [below,String.toList_ofList,parts_join text (isAbsolute_joined nonempty named),
    filterMap_pieces_joined nonempty named]

/-- Names that lead to different files give different paths. -/
theorem eq_of_parts_below {others : List String} (rooted : root ≠ "")
    (nonempty : names ≠ [] ∧ others ≠ []) (named : ∀ name ∈ names ++ others, IsFileName name)
    (same : parts (below root names).toList = parts (below root others).toList) :
    names = others := by
  obtain ⟨left,right⟩ := List.forall_mem_append.mp named
  rw [parts_below rooted nonempty.1 left,parts_below rooted nonempty.2 right,
    List.append_cancel_left_eq] at same
  refine (List.map_injective_iff.mpr fun a b equal => ?_) same
  exact String.toList_inj.mp (Part.name.inj equal)

/-- All paths below a directory begin with the same text, and then come the names. -/
theorem exists_toList_below (root : String) : ∃ base, ∀ names, names ≠ [] →
    (∀ name ∈ names, IsFileName name) →
    (below root names).toList = base ++ Text.joined ['/'] (names.map String.toList) := by
  by_cases slashed : root.toList.isEmpty ∨ root.toList.getLast? = some '/'
  · refine ⟨root.toList,fun names nonempty named => ?_⟩
    rw [below,String.toList_ofList,join,isAbsolute_joined nonempty named,if_neg Bool.false_ne_true,
      if_pos slashed]
  · refine ⟨root.toList ++ ['/'],fun names nonempty named => ?_⟩
    rw [below,String.toList_ofList,join,isAbsolute_joined nonempty named,if_neg Bool.false_ne_true,
      if_neg slashed,List.append_assoc,List.singleton_append]

theorem fileName?_below {front : List String} (rooted : root ≠ "")
    (named : ∀ entry ∈ front ++ [name], IsFileName entry) :
    fileName? (below root (front ++ [name])).toList = some name.toList := by
  rw [fileName?,parts_below rooted (by simp) named]
  simp

theorem extension?_below {front : List String} {stem word : List Char}
    (rooted : root ≠ "") (named : ∀ entry ∈ front ++ [name], IsFileName entry)
    (nonempty : stem ≠ []) (noDot : '.' ∉ word) (cut : name.toList = stem ++ '.' :: word) :
    extension? (below root (front ++ [name])).toList = some word := by
  simp [extension?,fileName?_below rooted named,cut,cutExtension?,Text.cutLast?_append noDot,
    nonempty]

/-! ### Order -/

theorem isBefore_iff {a b : List Char} : isBefore a b = true ↔ key a < key b := by
  rw [isBefore,List.lex_eq_true_iff_lex]
  simp only [List.lex_eq_true_iff_lt]
  exact List.lex_lt

theorem isBefore_eq_false_iff {a b : List Char} : isBefore a b = false ↔ key b ≤ key a := by
  rw [← Bool.not_eq_true,isBefore_iff,not_lt]

/-- The order goes by the parts alone. -/
theorem key_eq_iff {a b : List Char} : key a = key b ↔ parts a = parts b := by
  refine (List.map_injective_iff.mpr fun p q same => ?_).eq_iff
  have chars : Function.Injective (List.map Char.toNat) :=
    List.map_injective_iff.mpr fun _ _ => Char.toNat_inj.mp
  cases p <;> cases q <;> simp_all [Part.key,chars.eq_iff]

theorem mem_sorted {path : String} {paths : List String} : path ∈ sorted paths ↔ path ∈ paths :=
  List.mem_mergeSort

/-- That no path comes before the one ahead of it is an order on paths. -/
theorem not_isBefore_trans (a b c : String) : (!isBefore b.toList a.toList) = true →
    (!isBefore c.toList b.toList) = true → (!isBefore c.toList a.toList) = true := by
  simp only [Bool.not_eq_true',isBefore_eq_false_iff]
  exact le_trans

theorem not_isBefore_total (a b : String) :
    (!isBefore b.toList a.toList || !isBefore a.toList b.toList) = true := by
  simp only [Bool.or_eq_true,Bool.not_eq_true',isBefore_eq_false_iff]
  exact le_total _ _

theorem pairwise_sorted (paths : List String) :
    (sorted paths).Pairwise fun a b => isBefore b.toList a.toList = false := by
  simpa [sorted] using List.pairwise_mergeSort not_isBefore_trans not_isBefore_total paths

theorem sorted_of_pairwise {paths : List String}
    (ordered : paths.Pairwise fun a b => isBefore b.toList a.toList = false) :
    sorted paths = paths :=
  List.mergeSort_of_pairwise (ordered.imp fun notBefore => by simp [notBefore])

/-- Paths whose parts differ are in strictly ascending order. -/
theorem pairwise_isBefore_sorted {paths : List String}
    (distinct : paths.Pairwise fun a b => parts a.toList ≠ parts b.toList) :
    (sorted paths).Pairwise fun a b => isBefore a.toList b.toList = true := by
  have permuted : paths.Perm (sorted paths) := (List.mergeSort_perm _ _).symm
  have differ := distinct.perm permuted Ne.symm
  refine ((pairwise_sorted paths).and differ).imp fun {a b} ⟨notAfter,differs⟩ => ?_
  exact isBefore_iff.mpr (lt_of_le_of_ne (isBefore_eq_false_iff.mp notAfter)
    fun same => differs (key_eq_iff.mp same))

end Path

end ViewTemplates
