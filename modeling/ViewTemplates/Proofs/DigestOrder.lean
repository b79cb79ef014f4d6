import Mathlib.Data.List.TakeWhile
import ViewTemplates.Proofs.Paths
import ViewTemplates.Proofs.Utf8
import ViewTemplates.View.Files

/-! The digest of paths in another order. Sorting brings all orders of a list to one, unless two
paths with the same parts are spelled differently: these keep the order they came in, and each is
digested as it is spelled. -/
namespace ViewTemplates

namespace Text

theorem count_joined {separator c : Char} (differs : c ≠ separator) (parts : List (List Char)) :
    (joined [separator] parts).count c = parts.flatten.count c := by
  fun_induction joined [separator] parts with
  | case1 => rfl
  | case2 part => simp
  | case3 part next rest ih =>
    simp only [List.count_append,List.flatten_cons,ih,List.count_singleton,
      beq_eq_false_iff_ne.mpr differs.symm]
    simp

end Text

namespace Path

variable {a b : String} {c : Char}

theorem isBefore_congr (same : parts a.toList = parts b.toList) (path : List Char) :
    isBefore path a.toList = isBefore path b.toList := by
  rw [Bool.eq_iff_iff,isBefore_iff,isBefore_iff,key_eq_iff.mpr same]

theorem not_isBefore_of_parts_eq (same : parts a.toList = parts b.toList) :
    isBefore a.toList b.toList = false :=
  isBefore_eq_false_iff.mpr (key_eq_iff.mpr same).ge

/-- A path is put after those that come before it, and ahead of all others. -/
theorem sorted_cons (path : String) (paths : List String) :
    sorted (path :: paths) =
      (sorted paths).takeWhile (isBefore ·.toList path.toList) ++
        path :: (sorted paths).dropWhile (isBefore ·.toList path.toList) := by
  obtain ⟨early,late,whole,others,before⟩ :=
    List.mergeSort_cons not_isBefore_trans not_isBefore_total path paths
  have ordered := pairwise_sorted (path :: paths)
  simp only [sorted] at ordered ⊢
  rw [whole] at ordered
  have after := (List.pairwise_cons.mp (List.pairwise_append.mp ordered).2.1).1
  have ahead : ∀ other ∈ early, isBefore other.toList path.toList = true := by simpa using before
  have notAhead : late.takeWhile (isBefore ·.toList path.toList) = [] ∧
      late.dropWhile (isBefore ·.toList path.toList) = late := by
    cases late with
    | nil => exact ⟨rfl,rfl⟩
    | cons other late => simp [after other List.mem_cons_self]
  rw [whole,others,List.takeWhile_append_of_pos ahead,List.dropWhile_append_of_pos ahead,
    notAhead.1,notAhead.2,List.append_nil]

/-- Paths with the same parts stand beside each other, in the order they came in. -/
theorem sorted_cons_cons (same : parts a.toList = parts b.toList) (paths : List String) :
    sorted (a :: b :: paths) =
      (sorted paths).takeWhile (isBefore ·.toList b.toList) ++
        a :: b :: (sorted paths).dropWhile (isBefore ·.toList b.toList) := by
  have ahead : ∀ other ∈ (sorted paths).takeWhile (isBefore ·.toList b.toList),
      isBefore other.toList b.toList = true := fun _ member =>
    List.mem_takeWhile_imp (p := fun path : String => isBefore path.toList b.toList) member
  have itself : isBefore b.toList b.toList = false := not_isBefore_of_parts_eq rfl
  simp only [sorted_cons a,isBefore_congr same]
  rw [sorted_cons b,List.takeWhile_append_of_pos ahead,List.dropWhile_append_of_pos ahead]
  simp [itself]

/-- Paths with the same parts have the same characters, but for slashes and dots. -/
theorem count_parts (noSlash : c ≠ '/') (noDot : c ≠ '.') (path : List Char) :
    ((parts path).flatMap Part.text).count c = path.count c := by
  have inner (segments : List (List Char)) :
      ((segments.filterMap Part.ofSegment?).flatMap Part.text).count c =
        segments.flatten.count c := by
    induction segments with
    | nil => rfl
    | cons segment segments ih =>
      simp only [List.filterMap_cons,Part.ofSegment?,List.flatten_cons,List.count_append]
      split_ifs with none parent
      · rcases none with rfl | rfl <;> simp [ih,noDot.symm]
      · simp [parent,Part.text,ih,noDot.symm]
      · simp [Part.text,ih]
  have whole : path.count c = (Text.pieces '/' path).flatten.count c := by
    rw [← Text.count_joined noSlash,Text.joined_pieces]
  rw [whole,← inner]
  simp only [parts]
  split <;> simp [Part.text,noSlash.symm,noDot.symm]

end Path

namespace TemplateFiles

variable {paths others : List String}

def terminated (paths : List String) : List Char :=
  paths.flatMap fun path => path.toList ++ ['\x00']

theorem digestInput_eq (paths : List String) :
    digestInput paths = Utf8.encode (terminated (Path.sorted paths)) := by
  rw [digestInput,terminated,Utf8.encode,List.flatMap_assoc]
  simp only [List.flatMap_append]
  rfl

theorem digestInput_of_pairwise
    (ordered : paths.Pairwise fun a b => Path.isBefore b.toList a.toList = false) :
    digestInput paths = Utf8.encode (terminated paths) := by
  rw [digestInput_eq,Path.sorted_of_pairwise ordered]

/-- Among the paths each place is spelled in one way. -/
def SpelledOnce (paths : List String) : Prop :=
  ∀ a ∈ paths, ∀ b ∈ paths, Path.parts a.toList = Path.parts b.toList → a = b

theorem sorted_of_perm (once : SpelledOnce paths) (permuted : others.Perm paths) :
    Path.sorted others = Path.sorted paths := by
  have sortedPerm : (Path.sorted others).Perm (Path.sorted paths) :=
    (List.mergeSort_perm _ _).trans (permuted.trans (List.mergeSort_perm _ _).symm)
  refine sortedPerm.eq_of_pairwise (fun a b inOthers inPaths notAfter notBefore => ?_)
    (Path.pairwise_sorted others) (Path.pairwise_sorted paths)
  rw [Path.isBefore_eq_false_iff] at notAfter notBefore
  exact once a (permuted.mem_iff.mp (Path.mem_sorted.mp inOthers)) b (Path.mem_sorted.mp inPaths)
    (Path.key_eq_iff.mp (le_antisymm notAfter notBefore))

/-- A text that ends in zero begins with another one only if it is that text or has more zeros. -/
theorem eq_of_terminated_start {a b rest : List Char} (balanced : a.count '\x00' = b.count '\x00')
    (whole : b ++ ['\x00'] = a ++ ['\x00'] ++ rest) : a = b := by
  rcases List.eq_nil_or_concat rest with rfl | ⟨rest,c,rfl⟩
  · rw [List.append_nil] at whole
    exact (List.append_cancel_right whole).symm
  · rw [List.concat_eq_append,← List.append_assoc] at whole
    obtain ⟨inner,-⟩ := List.append_inj' whole rfl
    rw [inner] at balanced
    simp at balanced

/-- Two texts with equally many zeros can be told apart by which of them comes first. -/
theorem eq_of_terminated_swap {a b : List Char} (balanced : a.count '\x00' = b.count '\x00')
    (same : a ++ ['\x00'] ++ (b ++ ['\x00']) = b ++ ['\x00'] ++ (a ++ ['\x00'])) : a = b := by
  rcases List.append_eq_append_iff.mp same with ⟨rest,whole,-⟩ | ⟨rest,whole,-⟩
  · exact eq_of_terminated_start balanced whole
  · exact (eq_of_terminated_start balanced.symm whole).symm

/-- Two spellings of one place are digested in the order they come in. -/
theorem eq_of_digestInput_swap {a b : String} (same : Path.parts a.toList = Path.parts b.toList)
    (digested : digestInput (a :: b :: paths) = digestInput (b :: a :: paths)) : a = b := by
  have congruent := fun other : String => Path.isBefore_congr same other.toList
  rw [digestInput_eq,digestInput_eq] at digested
  have chars := Utf8.encode_injective digested
  rw [Path.sorted_cons_cons same,Path.sorted_cons_cons same.symm] at chars
  simp only [terminated,List.flatMap_append,List.flatMap_cons,congruent] at chars
  have pair := List.append_cancel_left chars
  rw [← List.append_assoc,← List.append_assoc (b.toList ++ ['\x00'])] at pair
  -- Where a path ends is not fixed by its text, but both spellings have equally many zeros.
  have balanced : a.toList.count '\x00' = b.toList.count '\x00' := by
    rw [← Path.count_parts (by decide) (by decide),same,Path.count_parts (by decide) (by decide)]
  exact String.toList_inj.mp (eq_of_terminated_swap balanced (List.append_cancel_right pair))

/-- Paths are digested alike in every order, if and only if none of them is another spelling of the
place of one of the others. -/
theorem digest_ignores_order_iff (paths : List String) :
    (∀ others : List String, others.Perm paths →
      digestInput others = digestInput paths ∧ Digest.ofPaths others = Digest.ofPaths paths) ↔
    SpelledOnce paths := by
  constructor
  · intro ignored a inPaths b bInPaths same
    by_contra differs
    have inRest : b ∈ paths.erase a := (List.mem_erase_of_ne (Ne.symm differs)).mpr bInPaths
    have first : (a :: b :: (paths.erase a).erase b).Perm paths :=
      ((List.perm_cons_erase inRest).symm.cons a).trans (List.perm_cons_erase inPaths).symm
    obtain ⟨here,-⟩ := ignored _ first
    obtain ⟨swapped,-⟩ := ignored _ ((List.Perm.swap a b _).trans first)
    exact differs (eq_of_digestInput_swap same (here.trans swapped.symm))
  · intro once others permuted
    have input : digestInput others = digestInput paths := by
      rw [digestInput,digestInput,sorted_of_perm once permuted]
    exact ⟨input,by rw [Digest.ofPaths,Digest.ofPaths,input]⟩

theorem digest_of_respelled :
    ["a//b","a/b"].Perm ["a/b","a//b"] ∧
    digestInput ["a//b","a/b"] ≠ digestInput ["a/b","a//b"] ∧
    Digest.ofPaths ["a//b","a/b"] ≠ Digest.ofPaths ["a/b","a//b"] := by
  have double : digestInput ["a//b","a/b"] = Utf8.encode (terminated ["a//b","a/b"]) :=
    digestInput_of_pairwise (by decide)
  have single : digestInput ["a/b","a//b"] = Utf8.encode (terminated ["a/b","a//b"]) :=
    digestInput_of_pairwise (by decide)
  have digests : Digest.ofPaths ["a//b","a/b"] ≠ Digest.ofPaths ["a/b","a//b"] := by
    rw [Digest.ofPaths,Digest.ofPaths,double,single]
    decide +kernel
  refine ⟨.swap _ _ _,fun same => digests ?_,digests⟩
  rw [Digest.ofPaths,Digest.ofPaths,same]

end TemplateFiles

end ViewTemplates
