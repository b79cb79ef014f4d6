import ViewTemplates.Proofs.Discovery
import ViewTemplates.View.Basic

/-! What views are compiled to: one template for each file that is found, under the name of the
file. Two files of one name are refused, and files without an engine are not found in the first
place where the extensions are words. -/
namespace ViewTemplates.View

variable {disk : Disk} {registry : Registry} {declaration : ViewDeclaration}
  {view root path : String} {files later : List String} {table next : KeyMap (String × Template)}
  {cause : SetupError}

/-- The engine for the last extension of a file makes the template of what is in the file. -/
def CompilesTo (disk : Disk) (registry : Registry) (root path : String) (template : Template) :
    Prop :=
  ∃ engine bytes, registry.engine? ((TemplateFiles.engineExtension? path).getD "") = some engine ∧
    disk.read? path = some bytes ∧
    engine.compileFile path (TemplateFiles.name path root) bytes = .ok template

/-! ### One more file -/

theorem addFile_eq_ok (added : addFile disk registry view root table path = .ok next) :
    table.find? (TemplateFiles.name path root) = none ∧
      ∃ template, CompilesTo disk registry root path template ∧
        next = table.insert (TemplateFiles.name path root) (path,template) := by
  simp only [addFile] at added
  split at added
  · contradiction
  next new =>
    split at added
    · contradiction
    next engine known =>
      split at added
      · contradiction
      next bytes read =>
        split at added
        · contradiction
        next template compiled =>
          exact ⟨new,template,⟨engine,bytes,known,read,compiled⟩,(Except.ok.inj added).symm⟩

theorem addFile_eq_error (refused : addFile disk registry view root table path = .error cause) :
    (∃ existing template,
      table.find? (TemplateFiles.name path root) = some (existing,template) ∧
        cause = .collision view (TemplateFiles.name path root) existing path) ∨
    (∃ extension, extension = (TemplateFiles.engineExtension? path).getD "" ∧
      registry.engine? extension = none ∧ cause = .unknownEngine extension) ∨
    ∃ fault, cause = .uncompiled path fault := by
  simp only [addFile] at refused
  split at refused
  next existing template found =>
    exact .inl ⟨existing,template,found,(Except.error.inj refused).symm⟩
  next =>
    split at refused
    next unknown => exact .inr (.inl ⟨_,rfl,unknown,(Except.error.inj refused).symm⟩)
    next =>
      refine .inr (.inr ?_)
      split at refused
      · exact ⟨_,(Except.error.inj refused).symm⟩
      · split at refused
        · exact ⟨_,(Except.error.inj refused).symm⟩
        · contradiction

/-! ### All files -/

/-- The table for some files: each is compiled under a name of its own, and nothing else is in
it. -/
structure Tabulates (disk : Disk) (registry : Registry) (root : String) (files : List String)
    (table : KeyMap (String × Template)) : Prop where
  distinct : (files.map (TemplateFiles.name · root)).Nodup
  compiled : ∀ file ∈ files, ∃ template, CompilesTo disk registry root file template ∧
    table.find? (TemplateFiles.name file root) = some (file,template)
  origin : ∀ name file template, table.find? name = some (file,template) →
    file ∈ files ∧ name = TemplateFiles.name file root

theorem tabulates_nil : Tabulates disk registry root [] .empty where
  distinct := .nil
  compiled := by simp
  origin := by simp

theorem Tabulates.addFile (done : Tabulates disk registry root files table)
    (added : View.addFile disk registry view root table path = .ok next) :
    Tabulates disk registry root (files ++ [path]) next := by
  obtain ⟨new,template,compiles,rfl⟩ := addFile_eq_ok added
  -- The name is not in the table, and the names of all files before are.
  have differs : ∀ file ∈ files, TemplateFiles.name file root ≠ TemplateFiles.name path root := by
    intro file member same
    obtain ⟨_,-,found⟩ := done.compiled file member
    rw [same,new] at found
    contradiction
  constructor
  · rw [List.map_append,List.nodup_append]
    refine ⟨done.distinct,List.nodup_singleton _,?_⟩
    simpa using differs
  · intro file member
    rcases List.mem_append.mp member with early | last
    · obtain ⟨old,compiledOld,found⟩ := done.compiled file early
      exact ⟨old,compiledOld,by rw [KeyMap.find?_insert,if_neg (differs file early),found]⟩
    · obtain rfl := List.mem_singleton.mp last
      exact ⟨template,compiles,by rw [KeyMap.find?_insert,if_pos rfl]⟩
  · intro name file other found
    rw [KeyMap.find?_insert] at found
    split at found
    next same =>
      obtain ⟨rfl,-⟩ := Prod.mk.inj (Option.some.inj found)
      exact ⟨by simp,same⟩
    next =>
      obtain ⟨member,same⟩ := done.origin name file other found
      exact ⟨List.mem_append_left _ member,same⟩

theorem Tabulates.addFiles (done : Tabulates disk registry root files table)
    (added : later.foldlM (View.addFile disk registry view root) table = .ok next) :
    Tabulates disk registry root (files ++ later) next := by
  induction later generalizing files table with
  | nil =>
    obtain rfl : table = next := Except.ok.inj added
    rwa [List.append_nil]
  | cons path later ih =>
    rw [List.foldlM_cons] at added
    rcases first : View.addFile disk registry view root table path with cause | middle
    · rw [first] at added
      contradiction
    · rw [first] at added
      simpa using ih (done.addFile first) added

/-- Where files are refused, the first one to be refused is refused after those before it were
added. -/
theorem addFiles_eq_error
    (refused : files.foldlM (addFile disk registry view root) table = .error cause) :
    ∃ before path after middle, files = before ++ path :: after ∧
      before.foldlM (addFile disk registry view root) table = .ok middle ∧
      addFile disk registry view root middle path = .error cause := by
  induction files generalizing table with
  | nil => contradiction
  | cons path later ih =>
    rw [List.foldlM_cons] at refused
    rcases first : addFile disk registry view root table path with fault | middle
    · rw [first] at refused
      obtain rfl : fault = cause := Except.error.inj refused
      exact ⟨[],path,later,table,rfl,rfl,first⟩
    · rw [first] at refused
      obtain ⟨before,refusedPath,after,last,rfl,added,failed⟩ := ih refused
      refine ⟨path :: before,refusedPath,after,last,rfl,?_,failed⟩
      rw [List.foldlM_cons,first]
      exact added

theorem Tabulates.perm_keys (done : Tabulates disk registry root files table) :
    (files.map (TemplateFiles.name · root)).Perm table.keys := by
  have keysDistinct : table.keys.Nodup := Entries.nodup_keys table.ascending
  refine (List.perm_ext_iff_of_nodup done.distinct keysDistinct).mpr fun name => ?_
  rw [KeyMap.mem_keys_iff,KeyMap.contains,Option.isSome_iff_exists,List.mem_map]
  constructor
  · rintro ⟨file,member,rfl⟩
    obtain ⟨template,-,found⟩ := done.compiled file member
    exact ⟨_,found⟩
  · rintro ⟨⟨file,template⟩,found⟩
    obtain ⟨member,same⟩ := done.origin name file template found
    exact ⟨file,member,same.symm⟩

/-! ### The declaration -/

/-- The templates are to be found at this root with this pattern. -/
def IsRooted (declaration : ViewDeclaration) (root pattern : String) : Prop :=
  ∃ config, declaration.config = some config ∧ config.directory? declaration.name = some root ∧
    config.pattern = pattern

theorem IsRooted.unique {otherRoot pattern otherPattern : String}
    (rooted : IsRooted declaration root pattern)
    (other : IsRooted declaration otherRoot otherPattern) :
    root = otherRoot ∧ pattern = otherPattern := by
  obtain ⟨config,configured,found,rfl⟩ := rooted
  obtain ⟨config,configuredToo,foundToo,rfl⟩ := other
  obtain rfl := Option.some.inj (configured.symm.trans configuredToo)
  exact ⟨Option.some.inj (found.symm.trans foundToo),rfl⟩

/-- What is wrong with a declaration whatever the files are. -/
inductive Misdeclared (registry : Registry) (declaration : ViewDeclaration) : SetupError → Prop
  | name (invalid : Naming.isViewName declaration.name = false) :
    Misdeclared registry declaration (.invalidViewName declaration.name)
  | root (missing : ∀ config, declaration.config = some config →
      config.directory? declaration.name = none) :
    Misdeclared registry declaration (.missingRoot declaration.name)
  | pattern {config : ViewRoot} (configured : declaration.config = some config)
    (malformed :
      Glob.parse? (TemplateFiles.glob config.pattern registry.engineExtensions) = none) :
    Misdeclared registry declaration (.invalidPattern config.pattern declaration.name)

/-- How compiling ends: with a fault of the declaration, with a file that is refused, or with a view
of all the files that are found. -/
inductive Ends (disk : Disk) (registry : Registry) (declaration : ViewDeclaration) :
    Except SetupError View → Prop
  | misdeclared {cause : SetupError} (fault : Misdeclared registry declaration cause) :
    Ends disk registry declaration (.error cause)
  | refused {cause : SetupError} {root pattern : String}
    (rooted : IsRooted declaration root pattern)
    (refused : (TemplateFiles.find disk root pattern registry.engineExtensions).foldlM
      (addFile disk registry declaration.name root) .empty = .error cause) :
    Ends disk registry declaration (.error cause)
  | compiled {result : View} {table : KeyMap (String × Template)}
    (rooted : IsRooted declaration result.root result.pattern)
    (extensions : result.extensions = registry.engineExtensions)
    (added :
      (TemplateFiles.find disk result.root result.pattern registry.engineExtensions).foldlM
        (addFile disk registry declaration.name result.root) .empty = .ok table)
    (templates : result.templates = table.map (·.2))
    (digest : result.digest =
      TemplateFiles.digest disk result.root result.pattern result.extensions) :
    Ends disk registry declaration (.ok result)

theorem compile_ends (disk : Disk) (registry : Registry) (declaration : ViewDeclaration) :
    Ends disk registry declaration (compile disk registry declaration) := by
  simp only [compile]
  split
  next valid =>
    split
    next config configured =>
      split
      next root found =>
        split
        next malformed =>
          exact .misdeclared (.pattern configured (by simp_all))
        next =>
          have rooted : IsRooted declaration root config.pattern := ⟨config,configured,found,rfl⟩
          rcases added : (TemplateFiles.find disk root config.pattern
              registry.engineExtensions).foldlM (addFile disk registry declaration.name root)
              .empty with cause | table
          · exact .refused rooted added
          · exact .compiled rooted rfl added rfl rfl
      next missing =>
        refine .misdeclared (.root fun other same => ?_)
        obtain rfl := Option.some.inj (configured.symm.trans same)
        exact Option.eq_none_iff_forall_ne_some.mpr missing
    next missing =>
      exact .misdeclared (.root fun config configured => absurd configured (missing config))
  next invalid => exact .misdeclared (.name (by simpa using invalid))

theorem of_compile_eq_ok {result : View}
    (compiled : compile disk registry declaration = .ok result) :
    IsRooted declaration result.root result.pattern ∧
      result.extensions = registry.engineExtensions ∧
      result.digest = TemplateFiles.digest disk result.root result.pattern result.extensions ∧
      ∃ table, Tabulates disk registry result.root
          (TemplateFiles.find disk result.root result.pattern registry.engineExtensions) table ∧
        result.templates = table.map (·.2) := by
  have ends := compile_ends disk registry declaration
  rw [compiled] at ends
  cases ends with
  | compiled rooted extensions added templates digest =>
    exact ⟨rooted,extensions,digest,_,by simpa using tabulates_nil.addFiles added,templates⟩

theorem of_compile_eq_collision {name existing conflicting : String}
    (failed : compile disk registry declaration =
      .error (.collision view name existing conflicting)) :
    view = declaration.name ∧ ∃ root pattern, IsRooted declaration root pattern ∧
      [existing,conflicting].Sublist
        (TemplateFiles.find disk root pattern registry.engineExtensions) ∧
      TemplateFiles.name existing root = name ∧ TemplateFiles.name conflicting root = name := by
  have ends := compile_ends disk registry declaration
  rw [failed] at ends
  cases ends with
  | misdeclared fault => cases fault
  | @refused _ root pattern rooted refused =>
    obtain ⟨before,path,after,table,files,added,refused⟩ := addFiles_eq_error refused
    have done := tabulates_nil.addFiles added
    rcases addFile_eq_error refused with ⟨first,template,found,same⟩ | ⟨_,_,_,same⟩ | ⟨_,same⟩
    · -- What the table holds comes from the files before the one that is refused.
      cases same
      obtain ⟨early,sameName⟩ := done.origin _ _ _ found
      refine ⟨rfl,root,pattern,rooted,?_,sameName.symm,rfl⟩
      rw [files]
      exact (List.singleton_sublist.mpr early).append
        (List.singleton_sublist.mpr List.mem_cons_self)
    · contradiction
    · contradiction

/-! ### A template for each file that is found -/

def pagesView : ViewDeclaration where
  name := "App.PageView"
  config := some { root := some "/t", path := some "", pattern := "**/*" }

theorem pagesView_rooted : IsRooted pagesView "/t" "**/*" := ⟨_,rfl,rfl,rfl⟩

theorem pagesView_not_misdeclared (cause : SetupError) :
    ¬Misdeclared .default pagesView cause := by
  rintro (invalid | missing | ⟨configured,malformed⟩)
  · exact absurd invalid (by decide)
  · obtain ⟨config,configured,directory,-⟩ := pagesView_rooted
    rw [missing config configured] at directory
    contradiction
  · obtain rfl := Option.some.inj configured
    have each : ∀ extension ∈ Registry.default.engineExtensions, IsWord extension := by decide
    have parsed := TemplateFiles.parse?_leading_star each (by decide)
    exact absurd (parsed.symm.trans malformed) (by simp)

/-- The files that are compiled for it from a tree with a directory `t`. -/
theorem find_for_pagesView {disk : Disk} {found : List String}
    (stands : disk.place? "/t" = some ["t"])
    (matched : (disk.walk "/t" ["t"]).filterMap (TemplateFiles.matching? "/t" (.leading :: .star ::
      Glob.endingTokens (TemplateFiles.words Registry.default.engineExtensions))) = found)
    (ordered : found.Pairwise fun a b => Path.isBefore b.toList a.toList = false) :
    TemplateFiles.find disk "/t" "**/*" Registry.default.engineExtensions = found := by
  have each : ∀ extension ∈ Registry.default.engineExtensions, IsWord extension := by decide
  have nonempty : Registry.default.engineExtensions ≠ [] := by decide
  have parsed := TemplateFiles.parse?_leading_star each nonempty
  rw [TemplateFiles.find_eq_sorted nonempty stands parsed,matched,Path.sorted_of_pairwise ordered]

theorem find_pages :
    TemplateFiles.find TemplateFiles.pages "/t" "**/*" Registry.default.engineExtensions =
      ["/t/index.html.tmpl","/t/user/row.html.tmpl"] :=
  find_for_pagesView rfl (by decide +kernel) (by decide)

def rivals : FileTree :=
  .directory [("t",.directory [("index.html.tmpl",.file []),("index.html.yaml",.file [])])]

theorem find_rivals : TemplateFiles.find rivals "/t" "**/*" Registry.default.engineExtensions =
    ["/t/index.html.tmpl","/t/index.html.yaml"] :=
  find_for_pagesView rfl (by decide +kernel) (by decide)

theorem compile_pages : ∃ result, compile TemplateFiles.pages .default pagesView = .ok result := by
  have ends := compile_ends TemplateFiles.pages .default pagesView
  generalize compile TemplateFiles.pages .default pagesView = ended at ends
  cases ends with
  | misdeclared fault => exact absurd fault (pagesView_not_misdeclared _)
  | refused rooted refused =>
    obtain ⟨rfl,rfl⟩ := pagesView_rooted.unique rooted
    rw [find_pages] at refused
    have added : (["/t/index.html.tmpl","/t/user/row.html.tmpl"].foldlM
      (addFile TemplateFiles.pages .default pagesView.name "/t") .empty).isOk = true := by
        decide +kernel
    rw [refused] at added
    contradiction
  | compiled => exact ⟨_,rfl⟩

theorem compile_rivals : compile rivals .default pagesView =
    .error (.collision "App.PageView" "index.html" "/t/index.html.tmpl" "/t/index.html.yaml") := by
  have refusal : ["/t/index.html.tmpl","/t/index.html.yaml"].foldlM
      (addFile rivals .default pagesView.name "/t") .empty =
      .error (.collision "App.PageView" "index.html"
        "/t/index.html.tmpl" "/t/index.html.yaml") := by
    with_unfolding_all rfl
  have ends := compile_ends rivals .default pagesView
  generalize compile rivals .default pagesView = ended at ends
  cases ends with
  | misdeclared fault => exact absurd fault (pagesView_not_misdeclared _)
  | refused rooted refused =>
    obtain ⟨rfl,rfl⟩ := pagesView_rooted.unique rooted
    rw [find_rivals,refusal] at refused
    rw [Except.error.inj refused]
  | compiled rooted _ added =>
    obtain ⟨root,pattern⟩ := pagesView_rooted.unique rooted
    rw [← root,← pattern,find_rivals,refusal] at added
    contradiction

/-- The templates of a view are those of the files that are found: each file has a template name of
its own, these are the names of the view in ascending order, and under each stands what the engine
makes of its file. Where two files share a name nothing is compiled, and a collision is reported of
two such files in their order. -/
theorem templates_exact (disk : Disk) (registry : Registry) (declaration : ViewDeclaration) :
    (∀ result, compile disk registry declaration = .ok result →
      let files := TemplateFiles.find disk result.root result.pattern registry.engineExtensions
      let names := files.map (TemplateFiles.name · result.root)
      IsRooted declaration result.root result.pattern ∧ names.Nodup ∧
        result.templateNames.Pairwise (· < ·) ∧ result.templateNames.Perm names ∧
        ∀ file ∈ files, ∃ template, CompilesTo disk registry result.root file template ∧
          result.templates.find? (TemplateFiles.name file result.root) = some template) ∧
    (∀ root pattern, IsRooted declaration root pattern →
      ∀ first ∈ TemplateFiles.find disk root pattern registry.engineExtensions,
      ∀ second ∈ TemplateFiles.find disk root pattern registry.engineExtensions,
        first ≠ second → TemplateFiles.name first root = TemplateFiles.name second root →
        ∀ result, compile disk registry declaration ≠ .ok result) ∧
    ∀ view name existing conflicting,
      compile disk registry declaration = .error (.collision view name existing conflicting) →
      view = declaration.name ∧ ∃ root pattern, IsRooted declaration root pattern ∧
        [existing,conflicting].Sublist
          (TemplateFiles.find disk root pattern registry.engineExtensions) ∧
        TemplateFiles.name existing root = name ∧ TemplateFiles.name conflicting root = name ∧
        (disk.tree.Proper → Path.isBefore existing.toList conflicting.toList = true) := by
  refine ⟨fun result compiled => ?_,?_,?_⟩
  · obtain ⟨rooted,-,-,table,done,templates⟩ := of_compile_eq_ok compiled
    refine ⟨rooted,done.distinct,result.templates.keys_ascending,?_,fun file member => ?_⟩
    · rw [templateNames,templates,KeyMap.keys_map]
      exact done.perm_keys.symm
    · obtain ⟨template,compiles,found⟩ := done.compiled file member
      exact ⟨template,compiles,by rw [templates,KeyMap.find?_map,found]; rfl⟩
  · intro root pattern rooted first firstFound second secondFound differ same result compiled
    obtain ⟨rootedThere,-,-,table,done,-⟩ := of_compile_eq_ok compiled
    obtain ⟨rfl,rfl⟩ := rooted.unique rootedThere
    exact differ (List.inj_on_of_nodup_map done.distinct firstFound secondFound same)
  · intro view name existing conflicting failed
    obtain ⟨named,root,pattern,rooted,sublist,names⟩ := of_compile_eq_collision failed
    refine ⟨named,root,pattern,rooted,sublist,names.1,names.2,fun proper => ?_⟩
    simpa using (TemplateFiles.pairwise_find proper root pattern _).sublist sublist

/-- The pages have two templates; of two files named `index.html` none is compiled. -/
theorem templates_exact_pages :
    (∃ result, compile TemplateFiles.pages .default pagesView = .ok result ∧
      result.templateNames = ["index.html","user/row.html"]) ∧
    (∀ result, compile rivals .default pagesView ≠ .ok result) ∧
    compile rivals .default pagesView =
      .error (.collision "App.PageView" "index.html" "/t/index.html.tmpl" "/t/index.html.yaml") ∧
    TemplateFiles.name "/t/index.html.tmpl" "/t" = "index.html" ∧
    TemplateFiles.name "/t/index.html.yaml" "/t" = "index.html" := by
  obtain ⟨result,compiled⟩ := compile_pages
  obtain ⟨complete,-,-⟩ := templates_exact TemplateFiles.pages .default pagesView
  obtain ⟨-,refused,reported⟩ := templates_exact rivals .default pagesView
  obtain ⟨rooted,-,ascending,permuted,-⟩ := complete result compiled
  obtain ⟨root,pattern⟩ := pagesView_rooted.unique rooted
  rw [← root,← pattern,find_pages] at permuted
  refine ⟨⟨result,compiled,?_⟩,?_,compile_rivals,?_⟩
  · have names : ["/t/index.html.tmpl","/t/user/row.html.tmpl"].map (TemplateFiles.name · "/t") =
        ["index.html","user/row.html"] := by decide +kernel
    rw [names] at permuted
    refine permuted.eq_of_pairwise (fun a b _ _ before after => ?_) ascending (by decide)
    exact absurd before (String.lt_asymm after)
  · refine refused "/t" "**/*" pagesView_rooted "/t/index.html.tmpl" ?_ "/t/index.html.yaml" ?_
      (by decide) (by decide +kernel) <;> simp [find_rivals]
  · obtain ⟨-,root,pattern,rooted,-,first,second,-⟩ := reported _ _ _ _ compile_rivals
    obtain ⟨rfl,rfl⟩ := pagesView_rooted.unique rooted
    exact ⟨first,second⟩

theorem exists_engine_of_mem_find {pattern : String} (proper : disk.tree.Proper)
    (each : ∀ extension ∈ registry.engineExtensions, IsWord extension)
    (found : path ∈ TemplateFiles.find disk root pattern registry.engineExtensions) :
    ∃ extension engine, TemplateFiles.engineExtension? path = some extension ∧
      registry.engine? extension = some engine := by
  obtain ⟨extension,isKey,named⟩ := TemplateFiles.engineExtension?_of_mem_find proper each found
  obtain ⟨engine,bound⟩ := Option.isSome_iff_exists.mp (KeyMap.mem_keys_iff.mp isKey)
  exact ⟨extension,engine,named,bound⟩

/-- Where the extensions of the engines are words, every file that is found has an engine, whatever
the pattern is, and so no view fails to compile for want of one. -/
theorem every_found_file_has_engine (proper : disk.tree.Proper)
    (each : ∀ extension ∈ registry.engineExtensions, IsWord extension) :
    (∀ root pattern path,
      path ∈ TemplateFiles.find disk root pattern registry.engineExtensions →
      ∃ extension engine, TemplateFiles.engineExtension? path = some extension ∧
        registry.engine? extension = some engine) ∧
    ∀ declaration extension,
      compile disk registry declaration ≠ .error (.unknownEngine extension) := by
  refine ⟨fun root pattern path => exists_engine_of_mem_find proper each,
    fun declaration extension failed => ?_⟩
  have ends := compile_ends disk registry declaration
  rw [failed] at ends
  cases ends with
  | misdeclared fault => cases fault
  | refused rooted refused =>
    obtain ⟨before,path,after,middle,split,-,refused⟩ := addFiles_eq_error refused
    have found : path ∈ before ++ path :: after := List.mem_append_right _ List.mem_cons_self
    rw [← split] at found
    obtain ⟨extension,engine,named,bound⟩ := exists_engine_of_mem_find proper each found
    rcases addFile_eq_error refused with ⟨_,_,_,same⟩ | ⟨_,rfl,unknown,-⟩ | ⟨_,same⟩
    · contradiction
    · rw [named,Option.getD_some,bound] at unknown
      contradiction
    · contradiction

/-- The row is found by a pattern with a class and alternatives, and has an engine. -/
theorem every_found_page_has_engine :
    TemplateFiles.pages.Proper ∧
    (∀ extension ∈ Registry.default.engineExtensions, IsWord extension) ∧
    "/t/user/row.html.tmpl" ∈ TemplateFiles.find TemplateFiles.pages "/t" "[a-z]*/\x7brow,col\x7d.*"
      Registry.default.engineExtensions ∧
    (∃ extension engine, TemplateFiles.engineExtension? "/t/user/row.html.tmpl" = some extension ∧
      Registry.default.engine? extension = some engine) ∧
    compile TemplateFiles.pages .default pagesView ≠ .error (.unknownEngine "tmpl") := by
  have each : ∀ extension ∈ Registry.default.engineExtensions, IsWord extension := by decide
  have found : "/t/user/row.html.tmpl" ∈ TemplateFiles.find TemplateFiles.pages "/t"
      "[a-z]*/\x7brow,col\x7d.*" Registry.default.engineExtensions :=
    TemplateFiles.mem_find_iff.mpr ⟨by decide,["t"],_,["user","row.html.tmpl"],rfl,rfl,by decide,
      by decide +kernel,by decide⟩
  have proper : (TemplateFiles.pages : Disk).tree.Proper := TemplateFiles.proper_pages
  obtain ⟨known,compiles⟩ := every_found_file_has_engine proper each
  exact ⟨proper,each,found,known _ _ _ found,compiles pagesView "tmpl"⟩

end ViewTemplates.View
