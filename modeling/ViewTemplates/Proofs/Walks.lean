import Mathlib.Data.List.Nodup
import ViewTemplates.FileTree.Walk
import ViewTemplates.Proofs.FileTrees

/-! Walks list each file once, under names that are not hidden. Where there are no links, a walk
lists every file below the directory that only such names lead to. -/
namespace ViewTemplates

namespace FileTree

variable {tree found : FileTree} {entries : List (String × FileTree)} {name : String}
  {place : Place} {names more path : List String}

inductive Linkless : FileTree → Prop
  | file (bytes : Utf8.Bytes) : Linkless (.file bytes)
  | directory {entries : List (String × FileTree)} (each : ∀ entry ∈ entries, entry.2.Linkless) :
    Linkless (.directory entries)

theorem linkless_directory_iff :
    (directory entries).Linkless ↔ ∀ entry ∈ entries, entry.2.Linkless := by
  constructor
  · rintro (_ | ⟨each⟩)
    exact each
  · exact .directory

theorem Linkless.at? (linkless : tree.Linkless) (stands : tree.at? place = some found) :
    found.Linkless := by
  induction place generalizing tree with
  | nil =>
    obtain rfl : tree = found := by simpa using stands
    exact linkless
  | cons name rest ih =>
    obtain ⟨child,here,below⟩ := Option.bind_eq_some_iff.mp stands
    cases linkless with
    | file bytes => contradiction
    | directory each => exact ih (each _ (Entries.mem_of_find? here)) below

theorem Proper.named (proper : tree.Proper) (stands : tree.at? place = some (.directory entries)) :
    Entries.Ascending entries ∧ ∀ entry ∈ entries, IsFileName entry.1 := by
  cases (proper.at? stands).2 with
  | directory ascending named _ => exact ⟨ascending,named⟩

theorem directoryCount_le_of_mem {entry : String × FileTree} (member : entry ∈ entries) :
    entry.2.directoryCount ≤ directoryCount.countAll entries := by
  induction entries with
  | nil => contradiction
  | cons first rest ih =>
    obtain ⟨name,child⟩ := first
    rw [directoryCount.countAll]
    rcases List.mem_cons.mp member with rfl | later
    · exact Nat.le_add_right _ _
    · exact Nat.le_add_left_of_le (ih later)

theorem directoryCount_le_of_at? (proper : tree.Proper) (stands : tree.at? place = some found) :
    found.directoryCount ≤ tree.directoryCount := by
  induction place generalizing tree with
  | nil =>
    obtain rfl : tree = found := by simpa using stands
    exact Nat.le_refl _
  | cons name rest ih =>
    obtain ⟨child,here,below⟩ := Option.bind_eq_some_iff.mp stands
    obtain ⟨entries,rfl,member⟩ := (child?_eq_some_iff proper).mp here
    have inChild := ih (proper.child? here).2 below
    have inTree : child.directoryCount ≤ directoryCount.countAll entries :=
      directoryCount_le_of_mem member
    rw [directoryCount]
    omega

/-- The names lead to a file, and none of them is hidden. -/
def Shows (tree : FileTree) (names : List String) : Prop :=
  (∀ name ∈ names, isHidden name = false) ∧ ∃ bytes, tree.at? names = some (.file bytes)

theorem shows_nil_iff : tree.Shows [] ↔ ∃ bytes, tree = .file bytes := by simp [Shows]

theorem shows_cons_iff : tree.Shows (name :: path) ↔
    isHidden name = false ∧ ∃ child, tree.child? name = some child ∧ child.Shows path := by
  simp only [Shows,List.forall_mem_cons,at?_cons,Option.bind_eq_some_iff]
  constructor
  · rintro ⟨⟨shown,later⟩,bytes,child,here,below⟩
    exact ⟨shown,child,here,later,bytes,below⟩
  · rintro ⟨shown,child,here,later,bytes,below⟩
    exact ⟨⟨shown,later⟩,bytes,child,here,below⟩

theorem shows_file_iff {bytes : Utf8.Bytes} : (file bytes).Shows more ↔ more = [] := by
  cases more with
  | nil => simp [shows_nil_iff]
  | cons name rest => simp [shows_cons_iff,FileTree.child?]

theorem ne_nil_of_shows (shows : (directory entries).Shows more) : more ≠ [] := by
  rintro rfl
  simp [shows_nil_iff] at shows

theorem Shows.named (shows : tree.Shows names) (proper : tree.Proper) :
    ∀ name ∈ names, IsFileName name := by
  obtain ⟨-,bytes,stands⟩ := shows
  exact (proper.at? stands).1

end FileTree

namespace Disk

open FileTree

variable {disk : Disk} {entry : FileTree} {entries : List (String × FileTree)} {root name : String}
  {place : Place} {names path : List String} {inside : List Place} {fuel : Nat}

/-- What a walk lists for one entry of the directory at `place`. -/
def walkEntry (disk : Disk) (root : String) (fuel : Nat) (inside : List Place) (place : Place)
    (names : List String) (entry : String × FileTree) : List (List String) :=
  if isHidden entry.1 then []
  else match disk.enter? root inside place names entry.1 entry.2 with
    | none => []
    | some next =>
      match disk.tree.at? next with
      | some (.directory _) => disk.walkFrom root fuel (next :: inside) next (names ++ [entry.1])
      | some (.file _) => [names ++ [entry.1]]
      | _ => []

theorem walkFrom_of_directory (stands : disk.tree.at? place = some (.directory entries)) :
    disk.walkFrom root (fuel + 1) inside place names =
      entries.flatMap (disk.walkEntry root fuel inside place names) := by
  simp only [walkFrom,stands]
  rfl

theorem walkFrom_of_not_directory
    (other : ∀ entries, disk.tree.at? place ≠ some (.directory entries)) :
    disk.walkFrom root fuel inside place names = [] := by
  cases fuel with
  | zero => rfl
  | succ fuel =>
    rw [walkFrom]
    split
    · exact absurd ‹_› (other _)
    · rfl

/-- An entry that is not hidden leads to a directory that is walked in its turn, or to a file. -/
theorem mem_walkEntry_iff {entry : String × FileTree} :
    path ∈ disk.walkEntry root fuel inside place names entry ↔
      isHidden entry.1 = false ∧ ∃ next,
        disk.enter? root inside place names entry.1 entry.2 = some next ∧
        ((∃ entries, disk.tree.at? next = some (.directory entries)) ∧
            path ∈ disk.walkFrom root fuel (next :: inside) next (names ++ [entry.1]) ∨
          (∃ bytes, disk.tree.at? next = some (.file bytes)) ∧ path = names ++ [entry.1]) := by
  rw [walkEntry]
  split
  next hidden => simp [hidden]
  next shown =>
    rcases entered : disk.enter? root inside place names entry.1 entry.2 with _ | next
    · simp
    · rcases stands : disk.tree.at? next with _ | (bytes | target | entries) <;> simp [shown,stands]

/-- A walk lists names below the directory where it began, none of them hidden. -/
theorem exists_names_of_mem_walkFrom (proper : disk.tree.Proper)
    (listed : path ∈ disk.walkFrom root fuel inside place names) :
    ∃ more, path = names ++ more ∧ more ≠ [] ∧
      ∀ name ∈ more, IsFileName name ∧ isHidden name = false := by
  induction fuel generalizing inside place names with
  | zero => simp [walkFrom] at listed
  | succ fuel ih =>
    by_cases stands : ∃ entries, disk.tree.at? place = some (.directory entries)
    · obtain ⟨entries,stands⟩ := stands
      rw [walkFrom_of_directory stands] at listed
      obtain ⟨entry,member,listed⟩ := List.mem_flatMap.mp listed
      have named := (proper.named stands).2 entry member
      obtain ⟨shown,next,_,⟨_,below⟩ | ⟨_,rfl⟩⟩ := mem_walkEntry_iff.mp listed
      · obtain ⟨more,rfl,_,each⟩ := ih below
        exact ⟨entry.1 :: more,by simp,by simp,List.forall_mem_cons.mpr ⟨⟨named,shown⟩,each⟩⟩
      · exact ⟨[entry.1],rfl,by simp,by simp [named,shown]⟩
    · rw [walkFrom_of_not_directory (not_exists.mp stands)] at listed
      contradiction

theorem prefix_of_mem_walkEntry (proper : disk.tree.Proper) {entry : String × FileTree}
    (listed : path ∈ disk.walkEntry root fuel inside place names entry) :
    names ++ [entry.1] <+: path := by
  obtain ⟨_,_,_,⟨_,below⟩ | ⟨_,rfl⟩⟩ := mem_walkEntry_iff.mp listed
  · obtain ⟨more,rfl,_⟩ := exists_names_of_mem_walkFrom proper below
    exact List.prefix_append _ _
  · exact List.prefix_rfl

theorem nodup_walkFrom (proper : disk.tree.Proper) :
    (disk.walkFrom root fuel inside place names).Nodup := by
  induction fuel generalizing inside place names with
  | zero => exact List.nodup_nil
  | succ fuel ih =>
    by_cases stands : ∃ entries, disk.tree.at? place = some (.directory entries)
    · obtain ⟨entries,stands⟩ := stands
      rw [walkFrom_of_directory stands,List.nodup_flatMap]
      constructor
      · intro entry _
        rw [walkEntry]
        split
        · exact List.nodup_nil
        · split
          · exact List.nodup_nil
          · split
            · exact ih
            · exact List.nodup_singleton _
            · exact List.nodup_nil
      -- What is listed for two entries differs in the name after `names`.
      · refine (proper.named stands).1.imp fun {a b} below path inA inB => ?_
        have same := List.prefix_of_prefix_length_le (prefix_of_mem_walkEntry proper inA)
          (prefix_of_mem_walkEntry proper inB) (by simp)
        have same : a.1 = b.1 := by simpa using same
        exact String.lt_irrefl _ (same ▸ below)
    · rw [walkFrom_of_not_directory (not_exists.mp stands)]
      exact List.nodup_nil

theorem nodup_walk (proper : disk.tree.Proper) (root : String) (place : Place) :
    (disk.walk root place).Nodup :=
  nodup_walkFrom proper

theorem names_of_mem_walk (proper : disk.tree.Proper) (listed : path ∈ disk.walk root place) :
    path ≠ [] ∧ ∀ name ∈ path, IsFileName name ∧ isHidden name = false := by
  obtain ⟨more,rfl,nonempty,each⟩ := exists_names_of_mem_walkFrom proper listed
  exact ⟨nonempty,each⟩

/-! ### Walks without links -/

theorem enter?_of_not_link {name : String} (other : ∀ target, entry ≠ .link target) :
    disk.enter? root inside place names name entry = some (place ++ [name]) := by
  cases entry with
  | link target => exact absurd rfl (other target)
  | file bytes | directory entries => rfl

/-- Without links an entry stands for the files that names below it lead to, once this holds of the
directories below. -/
theorem mem_walkEntry_iff_shows {child : FileTree} (linkless : disk.tree.Linkless)
    (stands : disk.tree.at? (place ++ [name]) = some child)
    (deeper : ∀ inner, child = .directory inner →
      (path ∈ disk.walkFrom root fuel ((place ++ [name]) :: inside) (place ++ [name])
          (names ++ [name]) ↔
        ∃ more, path = names ++ [name] ++ more ∧ child.Shows more)) :
    path ∈ disk.walkEntry root fuel inside place names (name,child) ↔
      isHidden name = false ∧ ∃ more, path = names ++ name :: more ∧ child.Shows more := by
  have linklessChild := linkless.at? stands
  have enters : disk.enter? root inside place names name child = some (place ++ [name]) :=
    enter?_of_not_link fun target same => nomatch same ▸ linklessChild
  rw [mem_walkEntry_iff]
  simp only [enters,Option.some.injEq,exists_eq_left',stands]
  refine and_congr_right fun _ => ?_
  cases linklessChild with
  | file bytes => simp [shows_file_iff]
  | directory each => simp [deeper _ rfl]

/-- Without links a walk lists exactly the files below the directory that no hidden name leads to.
The fuel is enough for the directories below it. -/
theorem mem_walkFrom_iff (proper : disk.tree.Proper) (linkless : disk.tree.Linkless)
    (stands : disk.tree.at? place = some (.directory entries))
    (deep : directoryCount.countAll entries < fuel) :
    path ∈ disk.walkFrom root fuel inside place names ↔
      ∃ more, path = names ++ more ∧ (directory entries).Shows more := by
  induction fuel generalizing inside place names entries with
  | zero => contradiction
  | succ fuel ih =>
    have properHere := (proper.at? stands).2
    have child?_iff : ∀ name child, (directory entries).child? name = some child ↔
        (name,child) ∈ entries := by simp [child?_eq_some_iff properHere]
    have listed_iff : ∀ entry ∈ entries, path ∈ disk.walkEntry root fuel inside place names entry ↔
        isHidden entry.1 = false ∧
          ∃ more, path = names ++ entry.1 :: more ∧ entry.2.Shows more := by
      rintro ⟨name,child⟩ member
      have standsThere : disk.tree.at? (place ++ [name]) = some child := by
        rw [at?_append,stands]
        simp [(child?_iff name child).mpr member]
      refine mem_walkEntry_iff_shows linkless standsThere fun inner same => ?_
      subst same
      have count := directoryCount_le_of_mem member
      simp only [directoryCount] at count
      exact ih standsThere (by omega)
    rw [walkFrom_of_directory stands,List.mem_flatMap]
    constructor
    · rintro ⟨entry,member,listed⟩
      obtain ⟨shown,more,rfl,shows⟩ := (listed_iff entry member).mp listed
      exact ⟨entry.1 :: more,rfl,shows_cons_iff.mpr ⟨shown,_,(child?_iff _ _).mpr member,shows⟩⟩
    · rintro ⟨more,rfl,shows⟩
      obtain ⟨name,rest,rfl⟩ := List.exists_cons_of_ne_nil (ne_nil_of_shows shows)
      obtain ⟨shown,child,here,below⟩ := shows_cons_iff.mp shows
      have member := (child?_iff name child).mp here
      exact ⟨(name,child),member,(listed_iff _ member).mpr ⟨shown,rest,rfl,below⟩⟩

/-- Without links a walk lists exactly the files below the directory that no hidden name leads
to. -/
theorem mem_walk_iff (proper : disk.tree.Proper) (linkless : disk.tree.Linkless)
    (stands : disk.tree.at? place = some (.directory entries)) :
    path ∈ disk.walk root place ↔ (directory entries).Shows path := by
  have count := directoryCount_le_of_at? proper stands
  rw [directoryCount] at count
  have deep : directoryCount.countAll entries <
      (disk.tree.directoryCount + 1) * (disk.tree.directoryCount + 1) :=
    Nat.lt_of_lt_of_le (by omega) (Nat.le_mul_self _)
  rw [walk,mem_walkFrom_iff proper linkless stands deep]
  simp

end Disk

end ViewTemplates
