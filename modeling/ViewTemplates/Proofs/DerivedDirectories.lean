import ViewTemplates.Proofs.SnakeCase
import ViewTemplates.Proofs.TemplateNames
import ViewTemplates.View.Root

/-! Directories that are derived from view names. Below the root there is one directory for each
segment that the namespace leaves of a name, in lower case and without the suffix at its end, so no
such directory leads out of the root; the last one has the name of the view's resource. -/
namespace ViewTemplates

namespace Naming

variable {view space name : String} {segment front rest ending last : List Char}
  {segments left outer : List (List Char)} {names : List String}

/-! ### Segments -/

theorem isSegment_cons_iff {c : Char} : isSegment (c :: rest) = true ↔
    Text.isAsciiUpper c = true ∧
      ∀ d ∈ rest, Text.isAsciiAlphanumeric d = true ∨ d = '_' := by
  simp [isSegment]

theorem isSegment_of_append (named : isSegment (front ++ rest) = true) (nonempty : front ≠ []) :
    isSegment front = true := by
  obtain ⟨c,front,rfl⟩ := List.exists_cons_of_ne_nil nonempty
  rw [List.cons_append,isSegment_cons_iff] at named
  rw [isSegment_cons_iff]
  exact ⟨named.1,fun d member => named.2 d (List.mem_append_left _ member)⟩

theorem isSnakeCase_of_isSegment (named : isSegment segment = true) :
    IsSnakeCase (snakeCase segment) := by
  cases segment with
  | nil => contradiction
  | cons c rest =>
    obtain ⟨upper,others⟩ := isSegment_cons_iff.mp named
    have first : Text.isAsciiAlphanumeric c = true := by simp [Text.isAsciiAlphanumeric,upper]
    have ascii : ∀ d ∈ c :: rest, Text.isAscii d = true := by
      intro d member
      rcases List.mem_cons.mp member with rfl | later
      · exact Text.isAscii_of_isAsciiAlphanumeric first
      · rcases others d later with alphanumeric | rfl
        · exact Text.isAscii_of_isAsciiAlphanumeric alphanumeric
        · decide
    apply isSnakeCase_snakeCase ascii List.mem_cons_self
    rw [Text.isAlphanumeric,if_pos (ascii c List.mem_cons_self)]
    exact first

/-! ### The suffix -/

theorem unsuffixed_append (ending front : List Char) :
    unsuffixed ending (front ++ ending) = front := by
  simp [unsuffixed,Text.dropEnding?]

theorem unsuffixed_of_not_suffix (other : ¬ending <:+ segment) :
    unsuffixed ending segment = segment := by
  simp [unsuffixed,Text.dropEnding?,other]

/-- Without the suffix a segment is still one, unless it is the suffix alone. -/
theorem isSegment_unsuffixed (named : isSegment segment = true) (kept : segment ≠ ending) :
    isSegment (unsuffixed ending segment) = true := by
  by_cases suffixed : ending <:+ segment
  · obtain ⟨front,rfl⟩ := suffixed
    have nonempty : front ≠ [] := by
      rintro rfl
      exact kept rfl
    rw [unsuffixed_append]
    exact isSegment_of_append named nonempty
  · rwa [unsuffixed_of_not_suffix suffixed]

theorem unsuffixed_self (ending : List Char) : unsuffixed ending ending = [] :=
  unsuffixed_append ending []

theorem unsuffixLast_concat (ending : List Char) (front : List (List Char)) (last : List Char) :
    unsuffixLast ending (front ++ [last]) = front ++ [unsuffixed ending last] := by
  induction front with
  | nil => rfl
  | cons segment front ih =>
    cases front with
    | nil => rfl
    | cons next front => exact congrArg (segment :: ·) ih

/-! ### The namespace -/

/-- What a namespace leaves of the segments of a name: those that follow its own, where the name
starts with them, and otherwise all. -/
def Leaves (space : String) (segments left : List (List Char)) : Prop :=
  let own := (Text.pieces '.' space.toList).filter (!·.isEmpty)
  segments = own ++ left ∨ ¬own <+: segments ∧ left = segments

theorem leaves_withoutNamespace (space view : String) :
    Leaves space (Text.pieces '.' view.toList) (withoutNamespace space.toList view.toList) := by
  simp only [Leaves,withoutNamespace,List.isPrefixOf_iff_prefix]
  split
  next starts =>
    obtain ⟨left,whole⟩ := starts
    exact .inl (by rw [← whole,List.drop_left])
  next other => exact .inr ⟨other,rfl⟩

theorem Leaves.suffix (leaves : Leaves space segments left) : left <:+ segments := by
  rcases leaves with whole | ⟨-,rfl⟩
  · exact ⟨_,whole.symm⟩
  · exact List.suffix_refl left

/-! ### The directory -/

def directoryName (segment : List Char) : String := String.ofList (snakeCase segment)

/-- The names of the directories for the segments that are left of a view name: one for each, but
none for a bare suffix at the end. Any other segment there has the name of the view's resource. -/
structure AreDirectories (view : String) (left : List (List Char)) (names : List String) :
    Prop where
  count : names.length =
    if left.getLast? = some suffix.toList then left.length - 1 else left.length
  plain : ∀ name ∈ names, IsSnakeCase name.toList
  inner : names.take (left.length - 1) = left.dropLast.map directoryName
  resource : ∀ last, left.getLast? = some last → last ≠ suffix.toList →
    names.getLast? = some (resource view suffix)

def directoryNames (left : List (List Char)) : List String :=
  ((unsuffixLast suffix.toList left).filter (!·.isEmpty)).map directoryName

theorem directory_eq (view space : String) : (directory view space suffix).toList =
    Text.joined ['/']
      ((directoryNames (withoutNamespace space.toList view.toList)).map String.toList) := by
  simp [directory,directoryNames,directoryName,Function.comp_def]

theorem filter_not_isEmpty_of_isSegment (named : ∀ segment ∈ outer, isSegment segment = true) :
    outer.filter (!·.isEmpty) = outer := by
  apply List.filter_eq_self.mpr
  intro segment member
  cases segment with
  | nil => exact absurd (named [] member) (by decide)
  | cons c rest => rfl

theorem isSnakeCase_directoryName (named : isSegment segment = true) :
    IsSnakeCase (directoryName segment).toList := by
  rw [directoryName,String.toList_ofList]
  exact isSnakeCase_of_isSegment named

theorem areDirectories_suffix (view : String)
    (named : ∀ segment ∈ outer, isSegment segment = true) :
    AreDirectories view (outer ++ [suffix.toList]) (directoryNames (outer ++ [suffix.toList])) := by
  have names : directoryNames (outer ++ [suffix.toList]) = outer.map directoryName := by
    rw [directoryNames,unsuffixLast_concat,unsuffixed_self,List.filter_append,
      filter_not_isEmpty_of_isSegment named]
    simp
  rw [names]
  refine ⟨by simp,?_,?_,fun last isLast kept => ?_⟩
  · exact List.forall_mem_map.mpr fun segment member => isSnakeCase_directoryName (named _ member)
  · rw [List.dropLast_concat,List.take_of_length_le (by simp)]
  · rw [List.getLast?_concat] at isLast
    exact absurd (Option.some.inj isLast).symm kept

/-- The name of the resource comes from the last segment, which keeps a bare suffix only. -/
theorem resource_of_getLast? (ends : (Text.pieces '.' view.toList).getLast? = some last)
    (named : isSegment last = true) (kept : last ≠ suffix.toList) :
    resource view suffix = directoryName (unsuffixed suffix.toList last) := by
  have nonempty : unsuffixed suffix.toList last ≠ [] := by
    intro empty
    have named := isSegment_unsuffixed named kept
    rw [empty] at named
    contradiction
  simp [resource,directoryName,ends,nonempty]

/-- Every segment has a directory, and the last one is that of the resource. -/
theorem areDirectories_concat (ends : (Text.pieces '.' view.toList).getLast? = some last)
    (named : ∀ segment ∈ outer ++ [last], isSegment segment = true)
    (kept : last ≠ suffix.toList) :
    AreDirectories view (outer ++ [last]) (directoryNames (outer ++ [last])) := by
  have lastNamed : isSegment last = true := named last List.mem_concat_self
  have unsuffixedNamed := isSegment_unsuffixed lastNamed kept
  have all : ∀ segment ∈ outer ++ [unsuffixed suffix.toList last], isSegment segment = true :=
    List.forall_mem_append.mpr ⟨(List.forall_mem_append.mp named).1,
      List.forall_mem_singleton.mpr unsuffixedNamed⟩
  have names : directoryNames (outer ++ [last]) =
      (outer ++ [unsuffixed suffix.toList last]).map directoryName := by
    rw [directoryNames,unsuffixLast_concat,filter_not_isEmpty_of_isSegment all]
  rw [names]
  refine ⟨by simp [kept],?_,by simp,fun _ _ _ => ?_⟩
  · exact List.forall_mem_map.mpr fun segment member => isSnakeCase_directoryName (all _ member)
  · rw [resource_of_getLast? ends lastNamed kept]
    simp

theorem areDirectories_directoryNames (named : isViewName view = true)
    (within : left <:+ Text.pieces '.' view.toList) :
    AreDirectories view left (directoryNames left) := by
  have each : ∀ segment ∈ left, isSegment segment = true := by
    intro segment member
    exact List.all_eq_true.mp named segment (within.subset member)
  rcases List.eq_nil_or_concat left with rfl | ⟨outer,last,rfl⟩
  · exact ⟨rfl,by simp [directoryNames,unsuffixLast],rfl,by simp⟩
  · rw [List.concat_eq_append] at within each ⊢
    by_cases bare : last = suffix.toList
    · subst bare
      exact areDirectories_suffix view (List.forall_mem_append.mp each).1
    · have ends : (Text.pieces '.' view.toList).getLast? = some last := by
        obtain ⟨dropped,whole⟩ := within
        rw [← whole,← List.append_assoc,List.getLast?_concat]
      exact areDirectories_concat ends each bare

/-! ### Names of directories on paths -/

/-- Nothing that means anything on a path is in such a name. -/
theorem IsSnakeCase.not_mem {s : List Char} (plain : IsSnakeCase s) {c : Char}
    (special : c ∈ ['.','/','\x00']) : c ∉ s := by
  intro member
  rcases plain.2 c member with lower | digit | rfl
  · have outside : ¬['.','/','\x00'].any Text.isAsciiLower = true := by decide
    exact outside (List.any_eq_true.mpr ⟨c,special,lower⟩)
  · have outside : ¬['.','/','\x00'].any Text.isAsciiDigit = true := by decide
    exact outside (List.any_eq_true.mpr ⟨c,special,digit⟩)
  · simp at special

theorem isFileName_of_isSnakeCase (plain : IsSnakeCase name.toList) : IsFileName name := by
  refine ⟨?_,plain.not_mem (by simp),plain.not_mem (by simp)⟩
  have undotted : '.' ∉ name.toList := plain.not_mem (by simp)
  intro among
  simp only [List.mem_cons,List.not_mem_nil,or_false] at among
  rcases among with rfl | rfl | rfl
  · exact plain.1 rfl
  · exact undotted (by decide)
  · exact undotted (by decide)

theorem isInner_of_isSnakeCase (plain : IsSnakeCase name.toList) :
    Path.IsInner (.name name.toList) := by
  refine Path.isInner_name (plain.not_mem (by simp)) plain.1 fun dotted => ?_
  exact plain.not_mem (by simp) (List.mem_of_head? dotted)

theorem parts_joined_of_isSnakeCase (plain : ∀ name ∈ names, IsSnakeCase name.toList) :
    Path.parts (Text.joined ['/'] (names.map String.toList)) = names.map (.name ·.toList) := by
  have inner : ∀ part ∈ names.map (Path.Part.name ·.toList), Path.IsInner part :=
    List.forall_mem_map.mpr fun name member => isInner_of_isSnakeCase (plain name member)
  have read := Path.parts_written_of_inner inner
  rw [Path.written,List.map_map] at read
  exact read

theorem joined_eq_nil_iff (plain : ∀ name ∈ names, IsSnakeCase name.toList) :
    Text.joined ['/'] (names.map String.toList) = [] ↔ names = [] := by
  constructor
  · intro empty
    have read := parts_joined_of_isSnakeCase plain
    rw [empty] at read
    exact List.map_eq_nil_iff.mp read.symm
  · rintro rfl
    rfl

end Naming

namespace ViewRoot

open Naming

variable {config : ViewRoot} {view root : String}

/-- What a view without a path of its own has for one is derived with the namespace, and where there
is none with the first segment of its name. -/
theorem exists_space (view : String) (derived : config.path = none) : ∃ space,
    (config.namespaceName = some space ∨
      config.namespaceName = none ∧
        (Text.pieces '.' view.toList).head? = some space.toList) ∧
    config.subPath view = directory view space suffix := by
  simp only [subPath,derived]
  cases config.namespaceName with
  | some space => exact ⟨space,.inl rfl,rfl⟩
  | none =>
    refine ⟨_,.inr ⟨rfl,?_⟩,rfl⟩
    rw [Option.getD_none,String.toList_ofList,Text.head?_pieces]

/-- The directory of a view whose path is derived: the root, and below it one directory for each
segment that the namespace leaves of the name of the view. -/
theorem directory?_derived (named : isViewName view = true) (rooted : config.root = some root)
    (nonempty : root ≠ "") (derived : config.path = none) :
    ∃ space left names,
      (config.namespaceName = some space ∨
        config.namespaceName = none ∧
          (Text.pieces '.' view.toList).head? = some space.toList) ∧
      Leaves space (Text.pieces '.' view.toList) left ∧ AreDirectories view left names ∧
      (directory view space suffix).toList = Text.joined ['/'] (names.map String.toList) ∧
      Path.parts (directory view space suffix).toList = names.map (.name ·.toList) ∧
      config.directory? view = some (if names = [] then root else Path.below root names) ∧
      (names ≠ [] → Path.parts (Path.below root names).toList =
        Path.parts root.toList ++ names.map (.name ·.toList)) := by
  obtain ⟨space,chosen,sub⟩ := config.exists_space view derived
  have leaves := leaves_withoutNamespace space view
  have directories := areDirectories_directoryNames named leaves.suffix
  have joined := directory_eq view space
  generalize directoryNames (withoutNamespace space.toList view.toList) = names
    at directories joined
  have plain := directories.plain
  refine ⟨space,_,names,chosen,leaves,directories,joined,?_,?_,?_⟩
  · rw [joined,parts_joined_of_isSnakeCase plain]
  · have empty : (directory view space suffix).isEmpty = true ↔ names = [] := by
      rw [String.isEmpty_iff,← String.toList_eq_nil_iff,joined,joined_eq_nil_iff plain]
    simp only [directory?,rooted,sub,String.isEmpty_iff,nonempty,if_false] at empty ⊢
    by_cases none : names = []
    · rw [if_pos (empty.mpr none),if_pos none]
    · rw [if_neg (mt empty.mp none),if_neg none,joined,Path.below]
  · intro some
    exact Path.parts_below nonempty some fun name member =>
      isFileName_of_isSnakeCase (plain name member)

def nestedRoot : ViewRoot := { root := some "t/", namespaceName := some ".App" }

def nestedView : String := "App.Admin_2.HTTPServerView"

theorem directory?_derived_nested :
    isViewName nestedView = true ∧
    ∃ names, names.length = 2 ∧ names.getLast? = some "http_server" ∧
      (∀ name ∈ names, IsSnakeCase name.toList) ∧
      nestedRoot.directory? nestedView = some (Path.below "t/" names) ∧
      Path.parts (Path.below "t/" names).toList =
        .name "t".toList :: names.map (.name ·.toList) := by
  have named : isViewName nestedView = true := by decide +kernel
  have rooted : nestedRoot.root = some "t/" := rfl
  obtain ⟨space,left,names,chosen,leaves,directories,-,-,found,parts⟩ :=
    directory?_derived named rooted (by decide) rfl
  obtain rfl : space = ".App" := by
    rcases chosen with same | ⟨absent,-⟩
    · exact (Option.some.inj same).symm
    · contradiction
  have own : (Text.pieces '.' ".App".toList).filter (!·.isEmpty) = ["App".toList] := by
    decide +kernel
  have cut : Text.pieces '.' nestedView.toList =
      "App".toList :: ["Admin_2".toList,"HTTPServerView".toList] := by decide +kernel
  obtain rfl : left = ["Admin_2".toList,"HTTPServerView".toList] := by
    simp only [Leaves,own,cut,List.singleton_append] at leaves
    rcases leaves with whole | ⟨other,-⟩
    · exact (List.cons.inj whole).2.symm
    · exact absurd (List.prefix_append _ _) other
  have count : names.length = 2 := directories.count
  have some : names ≠ [] := by
    rintro rfl
    contradiction
  have resource : resource nestedView suffix = "http_server" := by decide +kernel
  refine ⟨named,names,count,?_,directories.plain,?_,?_⟩
  · rw [directories.resource _ rfl (by decide),resource]
  · rw [found,if_neg some]
  · rw [parts some]
    rfl

end ViewRoot

end ViewTemplates
