import ViewTemplates.FileTree.Walk
import ViewTemplates.Proofs.Paths

/-! File trees as disks hold them: the entries of a directory have different names, and names that
a part of a path can have. Writing and removing make such trees of such trees. -/
namespace ViewTemplates.FileTree

variable {tree found : FileTree} {entries : List (String × FileTree)} {name : String}
  {place next : Place}

/-- Every directory lists its entries in the order of their names, each name once. -/
inductive Proper : FileTree → Prop
  | file (bytes : Utf8.Bytes) : Proper (.file bytes)
  | link (target : String) : Proper (.link target)
  | directory {entries : List (String × FileTree)} (ascending : Entries.Ascending entries)
      (named : ∀ entry ∈ entries, IsFileName entry.1)
      (proper : ∀ entry ∈ entries, entry.2.Proper) : Proper (.directory entries)

@[simp] theorem at?_nil (tree : FileTree) : tree.at? [] = some tree := rfl

@[simp] theorem at?_cons (tree : FileTree) (name : String) (rest : Place) :
    tree.at? (name :: rest) = (tree.child? name).bind (at? · rest) := rfl

theorem at?_append (tree : FileTree) (place rest : Place) :
    tree.at? (place ++ rest) = (tree.at? place).bind (at? · rest) := List.foldlM_append

theorem proper_directory_iff : (directory entries).Proper ↔ Entries.Ascending entries ∧
    (∀ entry ∈ entries, IsFileName entry.1) ∧ ∀ entry ∈ entries, entry.2.Proper := by
  constructor
  · rintro (_ | _ | ⟨ascending,named,each⟩)
    exact ⟨ascending,named,each⟩
  · rintro ⟨ascending,named,each⟩
    exact .directory ascending named each

theorem child?_eq_some_iff (proper : tree.Proper) :
    tree.child? name = some found ↔
      ∃ entries, tree = .directory entries ∧ (name,found) ∈ entries := by
  cases proper with
  | file bytes => simp [child?]
  | link target => simp [child?]
  | directory ascending named proper =>
    simp only [child?,directory.injEq,exists_eq_left']
    exact ⟨Entries.mem_of_find?,Entries.find?_of_mem ascending⟩

theorem Proper.child? (proper : tree.Proper) (stands : tree.child? name = some found) :
    IsFileName name ∧ found.Proper := by
  obtain ⟨entries,rfl,member⟩ := (child?_eq_some_iff proper).mp stands
  cases proper with
  | directory ascending named each => exact ⟨named _ member,each _ member⟩

theorem Proper.at? (proper : tree.Proper) (stands : tree.at? place = some found) :
    (∀ name ∈ place, IsFileName name) ∧ found.Proper := by
  induction place generalizing tree with
  | nil =>
    obtain rfl : tree = found := by simpa using stands
    exact ⟨by simp,proper⟩
  | cons name rest ih =>
    obtain ⟨child,here,below⟩ := Option.bind_eq_some_iff.mp stands
    obtain ⟨named,properChild⟩ := proper.child? here
    obtain ⟨others,properFound⟩ := ih properChild below
    exact ⟨List.forall_mem_cons.mpr ⟨named,others⟩,properFound⟩

/-! ### Writing and removing -/

theorem proper_empty : empty.Proper := .directory .nil (by simp) (by simp)

theorem Proper.insert {child : FileTree} (proper : (FileTree.directory entries).Proper)
    (named : IsFileName name) (properChild : child.Proper) :
    (FileTree.directory (Entries.insert name child entries)).Proper := by
  obtain ⟨ascending,namedEntries,each⟩ := proper_directory_iff.mp proper
  refine .directory (Entries.ascending_insert ascending _ _) (fun entry member => ?_)
    fun entry member => ?_
  · rcases Entries.mem_insert member with rfl | old
    · exact named
    · exact namedEntries entry old
  · rcases Entries.mem_insert member with rfl | old
    · exact properChild
    · exact each entry old

theorem Proper.put {new : FileTree} (proper : tree.Proper) (named : ∀ name ∈ place, IsFileName name)
    (properNew : new.Proper) : (tree.put place new).Proper := by
  induction place generalizing tree with
  | nil => exact properNew
  | cons name rest ih =>
    obtain ⟨nameNamed,restNamed⟩ := List.forall_mem_cons.mp named
    have child : ((tree.child? name).getD empty).Proper := by
      rcases found : tree.child? name with _ | child
      · exact proper_empty
      · exact (proper.child? found).2
    have inserted := ih child restNamed
    -- What is not a directory gives way to one.
    cases tree with
    | directory entries => exact proper.insert nameNamed inserted
    | file bytes | link target => exact proper_empty.insert nameNamed inserted

theorem Proper.erase (proper : (FileTree.directory entries).Proper) (name : String) :
    (FileTree.directory (Entries.erase name entries)).Proper := by
  obtain ⟨ascending,named,each⟩ := proper_directory_iff.mp proper
  exact .directory (Entries.ascending_erase ascending name)
    (fun entry member => named entry (Entries.mem_of_mem_erase member))
    fun entry member => each entry (Entries.mem_of_mem_erase member)

theorem Proper.take (proper : tree.Proper) (place : Place) : (tree.take place).Proper := by
  induction place generalizing tree with
  | nil => exact proper
  | cons name rest ih =>
    cases tree with
    | file bytes => cases rest <;> exact proper
    | link target => cases rest <;> exact proper
    | directory entries =>
      cases rest with
      | nil => exact proper.erase name
      | cons next rest =>
        rcases found : Entries.find? name entries with _ | child
        · simpa only [FileTree.take,found] using proper
        · obtain ⟨named,properChild⟩ := proper.child? found
          simpa only [FileTree.take,found] using proper.insert named (ih properChild)

theorem named_of_resolveWith {follow : Place → List Path.Part → Option Place}
    {parts : List Path.Part} (proper : tree.Proper)
    (followed : ∀ from' parts, (∀ name ∈ from', IsFileName name) →
      ∀ next ∈ follow from' parts, ∀ name ∈ next, IsFileName name)
    (named : ∀ name ∈ place, IsFileName name)
    (resolved : tree.resolveWith follow place parts = some next) :
    ∀ name ∈ next, IsFileName name := by
  induction parts generalizing place with
  | nil => exact Option.some.inj resolved ▸ named
  | cons part rest ih =>
    cases part with
    | root => exact ih (by simp) resolved
    | current => exact ih named resolved
    | parent =>
      simp only [resolveWith] at resolved
      split at resolved
      · exact ih (fun name member => named name (List.dropLast_subset _ member)) resolved
      · contradiction
    | name text =>
      obtain ⟨here,stands,resolved⟩ := Option.bind_eq_some_iff.mp resolved
      obtain ⟨child,found,resolved⟩ := Option.bind_eq_some_iff.mp resolved
      split at resolved
      · exact followed _ _ named _ resolved
      · have nameNamed := ((proper.at? stands).2.child? found).1
        exact ih (List.forall_mem_append.mpr ⟨named,by simpa using nameNamed⟩) resolved

theorem named_of_resolve {links : Nat} {parts : List Path.Part} (proper : tree.Proper)
    (named : ∀ name ∈ place, IsFileName name)
    (resolved : tree.resolve links place parts = some next) : ∀ name ∈ next, IsFileName name := by
  induction links generalizing place parts next with
  | zero => exact named_of_resolveWith proper (by simp) named resolved
  | succ links ih =>
    exact named_of_resolveWith proper (fun _ _ named _ resolved => ih named resolved) named resolved

theorem Proper.makeDirectories {made : FileTree × Place} {parts : List Path.Part}
    (proper : tree.Proper) (named : ∀ name ∈ place, IsFileName name)
    (partsNamed : ∀ text, .name text ∈ parts → IsFileName (String.ofList text))
    (done : tree.makeDirectories place parts = some made) :
    made.1.Proper ∧ ∀ name ∈ made.2, IsFileName name := by
  induction parts generalizing tree place with
  | nil =>
    obtain rfl : (tree,place) = made := by simpa [FileTree.makeDirectories] using done
    exact ⟨proper,named⟩
  | cons part rest ih =>
    have restNamed : ∀ text, .name text ∈ rest → IsFileName (String.ofList text) :=
      fun text member => partsNamed text (List.mem_cons_of_mem _ member)
    simp only [FileTree.makeDirectories] at done
    split at done
    next next resolved =>
      have nextNamed := named_of_resolve proper named resolved
      split at done
      · exact ih proper nextNamed restNamed done
      · exact ih (proper.put nextNamed proper_empty) nextNamed restNamed done
    next =>
      split at done
      next _ text _ =>
        have nextNamed : ∀ name ∈ place ++ [String.ofList text], IsFileName name :=
          List.forall_mem_append.mpr ⟨named,by simpa using partsNamed text List.mem_cons_self⟩
        split at done
        · contradiction
        · exact ih (proper.put nextNamed proper_empty) nextNamed restNamed done
      · contradiction

theorem Proper.write {new written : FileTree} {path : String} {here : Place} (proper : tree.Proper)
    (properNew : new.Proper) (noNul : '\x00' ∉ path.toList)
    (hereNamed : ∀ name ∈ here, IsFileName name)
    (done : tree.write path new here = some written) : written.Proper := by
  have partsNamed (text : List Char) (member : .name text ∈ Path.parts path.toList) :
      IsFileName (String.ofList text) := Path.isFileName_of_mem_parts noNul member
  simp only [FileTree.write] at done
  split at done
  next text last =>
    obtain ⟨⟨made,place⟩,directories,done⟩ := Option.bind_eq_some_iff.mp done
    have ⟨properMade,named⟩ := proper.makeDirectories hereNamed
      (fun text member => partsNamed text (List.dropLast_subset _ member)) directories
    have nextNamed : ∀ name ∈ place ++ [String.ofList text], IsFileName name :=
      List.forall_mem_append.mpr ⟨named,by simpa using partsNamed text (List.mem_of_getLast? last)⟩
    split at done
    · exact Option.some.inj done ▸ properMade
    · obtain ⟨next,resolved,done⟩ := Option.bind_eq_some_iff.mp done
      have targetNamed := named_of_resolve properMade named resolved
      exact Option.some.inj done ▸ properMade.put targetNamed properNew
    · exact Option.some.inj done ▸ properMade.put nextNamed properNew
  · exact Option.some.inj done ▸ proper

theorem Proper.remove (proper : tree.Proper) (path : String) (here : Place) :
    (tree.remove path here).Proper := by
  simp only [FileTree.remove]
  split
  · exact proper.take _
  · exact proper

/-- What a run of writing and removing makes of a tree. Each may be done from another place. -/
inductive Edits (tree : FileTree) : FileTree → Prop
  | none : Edits tree tree
  | write {later new written : FileTree} {path : String} {here : Place} (edits : Edits tree later)
    (properNew : new.Proper) (noNul : '\x00' ∉ path.toList)
    (hereNamed : ∀ name ∈ here, IsFileName name)
    (done : later.write path new here = some written) : Edits tree written
  | remove {later : FileTree} (edits : Edits tree later) (path : String) (here : Place) :
    Edits tree (later.remove path here)

theorem Proper.edits {later : FileTree} (proper : tree.Proper) (edits : tree.Edits later) :
    later.Proper := by
  induction edits with
  | none => exact proper
  | write _ properNew noNul hereNamed done ih => exact ih.write properNew noNul hereNamed done
  | remove _ path here ih => exact ih.remove path here

end ViewTemplates.FileTree
