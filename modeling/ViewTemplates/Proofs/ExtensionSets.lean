import Mathlib.Data.List.Sort
import ViewTemplates.View.Files

/-! Extensions as a set. The glob has them in ascending order, each once and without the dots it
starts with. So neither their order, nor how often they are given, nor with how many dots matters to
the glob, to the files that are found and to their digest. -/
namespace ViewTemplates.TemplateFiles

/-- What is left of an extension without all the dots that it starts with. -/
def IsUndotted (extension word : String) : Prop :=
  word.toList.head? ≠ some '.' ∧ ∃ dots, extension.toList = List.replicate dots '.' ++ word.toList

/-- The same words are left of the extensions of both lists. -/
def SameExtensions (left right : List String) : Prop :=
  ∀ word, (∃ extension ∈ left, IsUndotted extension word) ↔
    ∃ extension ∈ right, IsUndotted extension word

variable {left right extensions : List String} {extension word : String}

theorem dropDots_eq_iff {s rest : List Char} :
    dropDots s = rest ↔ rest.head? ≠ some '.' ∧ ∃ dots, s = List.replicate dots '.' ++ rest := by
  constructor
  · rintro rfl
    induction s with
    | nil => exact ⟨by simp [dropDots],0,rfl⟩
    | cons c s ih =>
      by_cases dot : c = '.'
      · subst dot
        obtain ⟨visible,dots,same⟩ := ih
        have step : dropDots ('.' :: s) = dropDots s := by simp [dropDots]
        rw [step]
        exact ⟨visible,dots + 1,congrArg ('.' :: ·) same⟩
      · have kept : dropDots (c :: s) = c :: s := by simp [dropDots,dot]
        rw [kept]
        exact ⟨by simpa using dot,0,rfl⟩
  · rintro ⟨visible,dots,rfl⟩
    rw [dropDots,List.dropWhile_append_of_pos (by simp)]
    cases rest with
    | nil => rfl
    | cons c rest => simp_all

theorem isUndotted_iff :
    IsUndotted extension word ↔ String.ofList (dropDots extension.toList) = word := by
  rw [IsUndotted,← dropDots_eq_iff]
  constructor
  · intro same
    rw [same,String.ofList_toList]
  · rintro rfl
    rw [String.toList_ofList]

theorem mem_normalized_iff_isUndotted :
    word ∈ normalized extensions ↔ ∃ extension ∈ extensions, IsUndotted extension word := by
  simp only [mem_normalized_iff,isUndotted_iff]

theorem normalized_ascending (extensions : List String) :
    (normalized extensions).Pairwise (· < ·) :=
  List.pairwise_map.mpr (Entries.ascending_ofList _)

/-- The listing stands for the set: lists of extensions have one listing if and only if they are
the same set. -/
theorem normalized_eq_iff : normalized left = normalized right ↔ SameExtensions left right := by
  constructor
  · intro same word
    rw [← mem_normalized_iff_isUndotted,same,mem_normalized_iff_isUndotted]
  · intro same
    apply (normalized_ascending left).eq_of_mem_iff (normalized_ascending right)
    intro word
    rw [mem_normalized_iff_isUndotted,mem_normalized_iff_isUndotted]
    exact same word

/-- No extension is lost, so there is none only where none was given. -/
theorem normalized_eq_nil_iff : normalized extensions = [] ↔ extensions = [] := by
  constructor
  · intro nothing
    rw [List.eq_nil_iff_forall_not_mem] at nothing ⊢
    exact fun extension given => nothing _ (mem_normalized_iff.mpr ⟨extension,given,rfl⟩)
  · rintro rfl
    rfl

/-- For lists that are the same set of extensions without leading dots, the glob is the same, and so
are the files that are found and their digest. -/
theorem find_of_sameExtensions (same : SameExtensions left right) (pattern : String) :
    glob pattern left = glob pattern right ∧ ∀ disk root,
      find disk root pattern left = find disk root pattern right ∧
        digest disk root pattern left = digest disk root pattern right := by
  have listing := normalized_eq_iff.mpr same
  have globs : glob pattern left = glob pattern right := by rw [glob,glob,listing]
  have empty : left.isEmpty = right.isEmpty := by
    rw [Bool.eq_iff_iff,List.isEmpty_iff,List.isEmpty_iff,← normalized_eq_nil_iff,listing,
      normalized_eq_nil_iff]
  refine ⟨globs,fun disk root => ?_⟩
  have files : find disk root pattern left = find disk root pattern right := by
    rw [find,find,globs,empty]
  exact ⟨files,congrArg Digest.ofPaths files⟩

def onePage : FileTree := .directory [("t",.directory [("a.html.j2",.file [])])]

/-- Three spellings of one extension are that extension, and need no alternatives in the glob. -/
theorem find_of_sameExtensions_respelled :
    SameExtensions [".j2","j2","...j2"] ["j2"] ∧ glob "*" [".j2","j2","...j2"] = "*.j2" ∧
    find onePage "t" "*" [".j2","j2","...j2"] = ["t/a.html.j2"] ∧
    digest onePage "t" "*" [".j2","j2","...j2"] = digest onePage "t" "*" ["j2"] := by
  have same : SameExtensions [".j2","j2","...j2"] ["j2"] :=
    normalized_eq_iff.mp (by decide +kernel)
  obtain ⟨globs,found⟩ := find_of_sameExtensions same "*"
  obtain ⟨files,digests⟩ := found onePage "t"
  exact ⟨same,globs.trans (by decide +kernel),files.trans (by decide +kernel),digests⟩

end ViewTemplates.TemplateFiles
