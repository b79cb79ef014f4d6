import ViewTemplates.Proofs.Compilation
import ViewTemplates.Proofs.DigestOrder

/-! When a view is to be compiled again. The digest of a view stands for the bytes of its paths, and
these for the set of its paths, so unless SHA-256 maps two of them to one digest, the digest changes
if and only if the set does. -/
namespace ViewTemplates

namespace TemplateFiles

variable {disk later : Disk} {root pattern : String} {extensions paths others : List String}

/-- The path goes on from `base` without a zero character. -/
def Extends (base : List Char) (path : String) : Prop :=
  ∃ rest, path.toList = base ++ rest ∧ '\x00' ∉ rest

/-- The first zero character after `base` ends a path. -/
theorem eq_of_terminated_eq {base : List Char} (extend : ∀ path ∈ paths, Extends base path)
    (othersExtend : ∀ path ∈ others, Extends base path)
    (same : terminated paths = terminated others) : paths = others := by
  induction paths generalizing others with
  | nil => cases others <;> simp_all [terminated]
  | cons path paths ih =>
    cases others with
    | nil => simp [terminated] at same
    | cons other others =>
      obtain ⟨⟨rest,chars,clean⟩,extend⟩ := List.forall_mem_cons.mp extend
      obtain ⟨⟨otherRest,otherChars,otherClean⟩,othersExtend⟩ :=
        List.forall_mem_cons.mp othersExtend
      simp only [terminated,List.flatMap_cons,chars,otherChars,List.append_assoc,
        List.append_cancel_left_eq,List.singleton_append] at same
      have cut := congrArg (Text.cut '\x00') same
      rw [Text.cut_append clean,Text.cut_append otherClean] at cut
      obtain ⟨here,there⟩ := Prod.mk.inj cut
      have first : path = other := String.toList_inj.mp (by rw [chars,otherChars,here])
      rw [first,ih extend othersExtend (Option.some.inj there)]

theorem exists_extends (root : String) : ∃ base, ∀ {disk : Disk} {pattern : String}
    {extensions : List String}, disk.tree.Proper →
    ∀ path ∈ find disk root pattern extensions, Extends base path := by
  obtain ⟨base,begins⟩ := Path.exists_toList_below root
  refine ⟨base,fun proper path found => ?_⟩
  obtain ⟨-,place,tokens,names,-,-,listed,-,rfl⟩ := mem_find_iff.mp found
  obtain ⟨nonempty,named⟩ := Disk.names_of_mem_walk proper listed
  refine ⟨_,begins names nonempty fun name member => (named name member).1,fun zero => ?_⟩
  rcases Text.mem_of_mem_joined zero with inSeparator | ⟨part,member,inPart⟩
  · simp at inSeparator
  · obtain ⟨name,inNames,rfl⟩ := List.mem_map.mp member
    exact (named name inNames).1.2.2 inPart

theorem find_eq_iff (proper : disk.tree.Proper) (properLater : later.tree.Proper) :
    find later root pattern extensions = find disk root pattern extensions ↔
      ∀ path, path ∈ find later root pattern extensions ↔
        path ∈ find disk root pattern extensions := by
  constructor
  · intro same path
    rw [same]
  · intro same
    refine (List.perm_ext_iff_of_nodup (nodup_find properLater _ _ _) (nodup_find proper _ _ _)).mpr
      same |>.eq_of_pairwise (fun a b _ _ before after => ?_) (pairwise_find properLater _ _ _)
      (pairwise_find proper _ _ _)
    rw [Path.isBefore_iff] at before after
    exact absurd before (lt_asymm after)

theorem digestInput_find_eq_iff (proper : disk.tree.Proper) (properLater : later.tree.Proper) :
    digestInput (find later root pattern extensions) =
        digestInput (find disk root pattern extensions) ↔
      find later root pattern extensions = find disk root pattern extensions := by
  have ordered {disk : Disk} (proper : disk.tree.Proper) :
      (find disk root pattern extensions).Pairwise fun a b =>
        Path.isBefore b.toList a.toList = false :=
    (pairwise_find proper root pattern extensions).imp fun before =>
      Path.isBefore_eq_false_iff.mpr (Path.isBefore_iff.mp before).le
  obtain ⟨base,extend⟩ := exists_extends root
  refine ⟨fun same => ?_,congrArg digestInput⟩
  rw [digestInput_of_pairwise (ordered properLater),
    digestInput_of_pairwise (ordered proper)] at same
  exact eq_of_terminated_eq (extend properLater) (extend proper) (Utf8.encode_injective same)

end TemplateFiles

namespace View

variable {disk later : Disk} {registry : Registry} {declaration : ViewDeclaration} {view : View}

def files (view : View) (disk : Disk) : List String :=
  TemplateFiles.find disk view.root view.pattern view.extensions

theorem needsRecompile_eq_false_iff (compiled : compile disk registry declaration = .ok view) :
    view.needsRecompile later = false ↔
      Sha256.digest (TemplateFiles.digestInput (view.files later)) =
        Sha256.digest (TemplateFiles.digestInput (view.files disk)) := by
  obtain ⟨-,-,digest,-⟩ := of_compile_eq_ok compiled
  rw [needsRecompile,digest,bne_eq_false_iff_eq,TemplateFiles.digest,TemplateFiles.digest,
    TemplateFiles.Digest.ofPaths,TemplateFiles.Digest.ofPaths,TemplateFiles.Digest.mk.injEq]
  rfl

/-- A view is to be compiled again if and only if other files are found than those it was compiled
from, unless the digests of the two lists collide. It is not where these files were written again
and others came and went, and where the root is missing no files are found. -/
theorem needsRecompile_exact (proper : disk.tree.Proper) (properLater : later.tree.Proper)
    (compiled : compile disk registry declaration = .ok view)
    (noCollision : Sha256.digest (TemplateFiles.digestInput (view.files later)) =
        Sha256.digest (TemplateFiles.digestInput (view.files disk)) →
      TemplateFiles.digestInput (view.files later) =
        TemplateFiles.digestInput (view.files disk)) :
    (view.needsRecompile later = true ↔
      ¬∀ path, path ∈ view.files later ↔ path ∈ view.files disk) ∧
    view.needsRecompile disk = false ∧
    (∀ edited, disk.tree.Edits edited →
      (∀ path, path ∈ view.files { disk with tree := edited } ↔ path ∈ view.files disk) →
      view.needsRecompile { disk with tree := edited } = false) ∧
    ((∀ entries, later.find? view.root ≠ some (.directory entries)) → view.files later = []) := by
  refine ⟨?_,?_,fun edited edits same => ?_,fun missing => ?_⟩
  · rw [← Bool.not_eq_false,needsRecompile_eq_false_iff compiled]
    refine not_congr ?_
    calc
      _ ↔ TemplateFiles.digestInput (view.files later) =
          TemplateFiles.digestInput (view.files disk) :=
        ⟨noCollision,congrArg Sha256.digest⟩
      _ ↔ view.files later = view.files disk :=
        TemplateFiles.digestInput_find_eq_iff proper properLater
      _ ↔ _ := TemplateFiles.find_eq_iff proper properLater
  · exact (needsRecompile_eq_false_iff compiled).mpr rfl
  · have files : view.files { disk with tree := edited } = view.files disk :=
      (TemplateFiles.find_eq_iff proper (proper.edits edits)).mpr same
    rw [needsRecompile_eq_false_iff compiled,files]
  · exact TemplateFiles.find_of_not_directory missing _ _

def edited : FileTree :=
  (TemplateFiles.pages.write "/t/notes.md" (.file (Utf8.encode "Hi".toList))).getD .empty

/-- The pages without one of the templates. -/
def shrunk : FileTree := TemplateFiles.pages.remove "/t/index.html.tmpl"

theorem edits_edited : TemplateFiles.pages.Edits edited :=
  have done : TemplateFiles.pages.write "/t/notes.md" (.file (Utf8.encode "Hi".toList)) =
      some edited := rfl
  .write .none (.file _) (by decide) (by simp) done

theorem find_edited :
    TemplateFiles.find edited "/t" "**/*" Registry.default.engineExtensions =
      ["/t/index.html.tmpl","/t/user/row.html.tmpl"] :=
  find_for_pagesView rfl (by decide +kernel) (by decide)

theorem find_shrunk :
    TemplateFiles.find shrunk "/t" "**/*" Registry.default.engineExtensions =
      ["/t/user/row.html.tmpl"] :=
  find_for_pagesView rfl (by decide +kernel) (by decide)

/-- Notes do not count; a template that is gone does. -/
theorem needsRecompile_pages :
    TemplateFiles.pages.Proper ∧ shrunk.Proper ∧ TemplateFiles.pages.Edits edited ∧ ∃ view,
      compile TemplateFiles.pages .default pagesView = .ok view ∧
      view.needsRecompile TemplateFiles.pages = false ∧ view.needsRecompile edited = false ∧
      view.needsRecompile shrunk = true := by
  obtain ⟨view,compiled⟩ := compile_pages
  obtain ⟨rooted,extensions,-⟩ := of_compile_eq_ok compiled
  obtain ⟨root,pattern⟩ := pagesView_rooted.unique rooted
  have files (disk : Disk) : view.files disk =
      TemplateFiles.find disk "/t" "**/*" Registry.default.engineExtensions := by
    rw [View.files,← root,← pattern,extensions]
  have properShrunk : (shrunk : Disk).tree.Proper :=
    TemplateFiles.proper_pages.remove "/t/index.html.tmpl" []
  have differ : Sha256.digest (TemplateFiles.digestInput ["/t/user/row.html.tmpl"]) ≠
      Sha256.digest (TemplateFiles.digestInput ["/t/index.html.tmpl","/t/user/row.html.tmpl"]) := by
    rw [TemplateFiles.digestInput_of_pairwise (by decide),
      TemplateFiles.digestInput_of_pairwise (by decide)]
    decide +kernel
  obtain ⟨changed,upToDate,unchanged,-⟩ :=
    needsRecompile_exact TemplateFiles.proper_pages properShrunk compiled fun same => by
      rw [files,files,find_shrunk,find_pages] at same
      exact absurd same differ
  refine ⟨TemplateFiles.proper_pages,properShrunk,edits_edited,view,compiled,upToDate,
    unchanged edited edits_edited fun path => ?_,changed.mpr fun same => ?_⟩
  · rw [files,files,find_edited,find_pages]
  · rw [files,files,find_shrunk,find_pages] at same
    exact absurd ((same "/t/index.html.tmpl").mpr (by simp)) (by simp)

end View

end ViewTemplates
