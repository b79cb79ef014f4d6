import ViewTemplates.Proofs.GlobEndings
import ViewTemplates.Proofs.Walks
import ViewTemplates.Text.Letter
import ViewTemplates.View.Files

/-! Finding template files. What is found is in strictly ascending order. With extensions that are
words, every file that is found ends in a dot and one of them, whatever the pattern is. The patterns
`*` and `**/*` find these files in the directory and anywhere below it, all of them if and only if
none ends in a dot while the empty extension stands beside another: the glob has it as an empty
alternative, which matches nothing. -/
namespace ViewTemplates

def IsWord (text : String) : Prop :=
  ∀ c ∈ text.toList, Text.isAlphanumeric c = true ∨ c = '_' ∨ c = '-'

instance (text : String) : Decidable (IsWord text) :=
  List.decidableBAll (fun c => Text.isAlphanumeric c = true ∨ c = '_' ∨ c = '-') text.toList

/-- Nothing in a word means anything in a pattern, a path or a file name. -/
theorem IsWord.not_mem {text : String} (word : IsWord text) {c : Char}
    (special : c ∈ ['?','*','[',']','{','}',',','\\','/','.']) : c ∉ text.toList := by
  have known : ['?','*','[',']','{','}',',','\\','/','.'].all
      (fun c => !Text.isAlphanumeric c && c != '_' && c != '-') = true := by decide
  have other := List.all_eq_true.mp known c special
  intro member
  have := word c member
  simp_all

namespace TemplateFiles

variable {disk : Disk} {root pattern path : String} {extensions names : List String}
  {place : FileTree.Place}

/-- The extensions as they stand in the glob. -/
def words (extensions : List String) : List (List Char) :=
  (normalized extensions).map String.toList

theorem toList_glob (pattern : String) (extensions : List String) :
    (glob pattern extensions).toList = pattern.toList ++ Glob.endingText (words extensions) := by
  rw [glob,words]
  rcases normalized extensions with _ | ⟨first,_ | ⟨second,rest⟩⟩ <;>
    simp [Glob.endingText]

theorem nodup_words (extensions : List String) : (words extensions).Nodup :=
  (Entries.nodup_keys (Entries.ascending_ofList _)).map fun _ _ => String.toList_inj.mp

theorem dropDots_of_isWord {text : String} (word : IsWord text) :
    dropDots text.toList = text.toList := by
  have noDot := word.not_mem (c := '.') (by decide)
  rw [dropDots]
  rcases chars : text.toList with _ | ⟨c,rest⟩
  · rfl
  · have differs : c ≠ '.' := fun same => noDot (by simp [chars,same])
    simp [differs]

theorem mem_words_iff (each : ∀ extension ∈ extensions, IsWord extension) {word : List Char} :
    word ∈ words extensions ↔ String.ofList word ∈ extensions := by
  have normalized_iff (text : String) : text ∈ normalized extensions ↔ text ∈ extensions := by
    rw [mem_normalized_iff]
    constructor
    · rintro ⟨extension,inList,rfl⟩
      rwa [dropDots_of_isWord (each extension inList),String.ofList_toList]
    · intro inList
      refine ⟨text,inList,?_⟩
      rw [dropDots_of_isWord (each text inList),String.ofList_toList]
  rw [words,List.mem_map]
  constructor
  · rintro ⟨text,member,rfl⟩
    rw [String.ofList_toList]
    exact (normalized_iff text).mp member
  · intro member
    exact ⟨_,(normalized_iff _).mpr member,String.toList_ofList⟩

theorem words_ne_nil (nonempty : extensions ≠ [])
    (each : ∀ extension ∈ extensions, IsWord extension) : words extensions ≠ [] := by
  obtain ⟨first,rest,rfl⟩ := List.exists_cons_of_ne_nil nonempty
  have member : first.toList ∈ words (first :: rest) :=
    (mem_words_iff each).mpr (by simp)
  exact List.ne_nil_of_mem member

def matching? (root : String) (tokens : List Glob.Token) (names : List String) : Option String :=
  if Glob.isMatch tokens (Text.joined ['/'] (names.map String.toList)) then
    some (Path.below root names)
  else none

theorem matching?_eq_some_iff {tokens : List Glob.Token} :
    matching? root tokens names = some path ↔
      Glob.isMatch tokens (Text.joined ['/'] (names.map String.toList)) = true ∧
        path = Path.below root names := by
  rw [matching?,Option.ite_none_right_eq_some,Option.some.injEq,eq_comm (a := path)]

theorem find_eq_sorted {tokens : List Glob.Token} (nonempty : extensions ≠ [])
    (stands : disk.place? root = some place)
    (parsed : Glob.parse? (glob pattern extensions) = some tokens) :
    find disk root pattern extensions =
      Path.sorted ((disk.walk root place).filterMap (matching? root tokens)) := by
  rw [find,if_neg (by simpa using nonempty),stands,parsed]
  rfl

theorem find_cases (disk : Disk) (root pattern : String) (extensions : List String) :
    (find disk root pattern extensions = [] ∧ (extensions = [] ∨ disk.place? root = none ∨
      Glob.parse? (glob pattern extensions) = none)) ∨
    extensions ≠ [] ∧ ∃ place tokens, disk.place? root = some place ∧
      Glob.parse? (glob pattern extensions) = some tokens ∧
      find disk root pattern extensions =
        Path.sorted ((disk.walk root place).filterMap (matching? root tokens)) := by
  by_cases empty : extensions = []
  · exact .inl ⟨by rw [find,if_pos (by simpa using empty)],.inl empty⟩
  · rcases stands : disk.place? root with _ | place
    · exact .inl ⟨by simp [find,stands],.inr (.inl rfl)⟩
    · rcases parsed : Glob.parse? (glob pattern extensions) with _ | tokens
      · exact .inl ⟨by simp [find,parsed],.inr (.inr rfl)⟩
      · exact .inr ⟨empty,place,tokens,rfl,rfl,find_eq_sorted empty stands parsed⟩

theorem mem_find_iff :
    path ∈ find disk root pattern extensions ↔
      extensions ≠ [] ∧ ∃ place tokens names, disk.place? root = some place ∧
        Glob.parse? (glob pattern extensions) = some tokens ∧ names ∈ disk.walk root place ∧
        Glob.isMatch tokens (Text.joined ['/'] (names.map String.toList)) = true ∧
        path = Path.below root names := by
  rcases find_cases disk root pattern extensions with
    ⟨nothing,other⟩ | ⟨nonempty,place,tokens,stands,parsed,found⟩
  · rw [nothing]
    constructor
    · intro listed
      contradiction
    · rintro ⟨nonempty,place,tokens,names,stands,parsed,-⟩
      simp_all
  · rw [found,Path.mem_sorted,List.mem_filterMap]
    simp [matching?_eq_some_iff,nonempty,stands,parsed]

theorem root_ne_empty (found : disk.place? root = some place) : root ≠ "" := by
  rintro rfl
  simp [Disk.place?] at found

/-- What is found is in the order of paths, and nothing is found twice. -/
theorem pairwise_find (proper : disk.tree.Proper) (root pattern : String)
    (extensions : List String) :
    (find disk root pattern extensions).Pairwise fun a b =>
      Path.isBefore a.toList b.toList = true := by
  rcases find_cases disk root pattern extensions with
    ⟨nothing,-⟩ | ⟨-,place,tokens,stands,-,found⟩
  · rw [nothing]
    exact .nil
  · rw [found]
    apply Path.pairwise_isBefore_sorted
    refine List.pairwise_filterMap.mpr ((Disk.nodup_walk proper root place).imp_of_mem ?_)
    intro names others listed otherListed differ a isA b isB same
    obtain ⟨some,named⟩ := Disk.names_of_mem_walk proper listed
    obtain ⟨otherSome,otherNamed⟩ := Disk.names_of_mem_walk proper otherListed
    obtain ⟨-,rfl⟩ := matching?_eq_some_iff.mp isA
    obtain ⟨-,rfl⟩ := matching?_eq_some_iff.mp isB
    refine differ (Path.eq_of_parts_below (root_ne_empty stands) ⟨some,otherSome⟩ ?_ same)
    exact List.forall_mem_append.mpr ⟨fun name member => (named name member).1,
      fun name member => (otherNamed name member).1⟩

/-! ### Endings -/

/-- The name ends in a dot and one of the extensions. -/
def EndsIn (extensions : List String) (name : String) : Prop :=
  ∃ extension ∈ extensions, ∃ stem, name = stem ++ "." ++ extension

/-- The name ends in a dot and the empty extension, which stands beside another. -/
def IsOverlooked (extensions : List String) (name : String) : Prop :=
  "" ∈ extensions ∧ (∃ other ∈ extensions, other ≠ "") ∧ ∃ stem, name = stem ++ "."

theorem IsOverlooked.endsIn {name : String} (overlooked : IsOverlooked extensions name) :
    EndsIn extensions name := by
  obtain ⟨empty,-,stem,rfl⟩ := overlooked
  exact ⟨"",empty,stem,by simp⟩

section Words

variable (each : ∀ extension ∈ extensions, IsWord extension)

include each

theorem plain_words : ∀ word ∈ words extensions, ∀ c ∈ word, Glob.IsPlain c := by
  intro word member c inWord special
  refine (each _ ((mem_words_iff each).mp member)).not_mem (c := c) ?_ (by simpa using inWord)
  simp only [List.mem_cons] at special ⊢
  tauto

theorem slash_not_mem {word : List Char} (member : word ∈ words extensions) :
    '/' ∉ '.' :: word := by
  have absent := (each _ ((mem_words_iff each).mp member)).not_mem (c := '/') (by decide)
  simpa using absent

theorem parse?_star (nonempty : extensions ≠ []) : Glob.parse? (glob "*" extensions) =
    some (.star :: Glob.endingTokens (words extensions)) :=
  Glob.parse?_star (words_ne_nil nonempty each) (plain_words each) (toList_glob "*" extensions)

theorem parse?_leading_star (nonempty : extensions ≠ []) :
    Glob.parse? (glob "**/*" extensions) =
      some (.leading :: .star :: Glob.endingTokens (words extensions)) :=
  Glob.parse?_leading_star (words_ne_nil nonempty each) (plain_words each)
    (toList_glob "**/*" extensions)

theorem words_eq_iff (nonempty : extensions ≠ []) :
    words extensions = [[]] ↔ ∀ extension ∈ extensions, extension = "" := by
  constructor
  · intro alone extension inList
    have member : extension.toList ∈ words extensions := (mem_words_iff each).mpr (by simpa)
    simpa [alone] using member
  · intro empty
    refine Glob.eq_singleton_of_nodup (words_ne_nil nonempty each) (nodup_words extensions) ?_
    intro word member
    simpa using empty _ ((mem_words_iff each).mp member)

/-- No word ends in a dot, so a name that does can only end in the empty one. -/
theorem eq_nil_of_concat_dot {word front before : List Char} (member : word ∈ words extensions)
    (same : before ++ ['.'] = front ++ '.' :: word) : word = [] := by
  rcases List.eq_nil_or_concat word with empty | ⟨start,c,rfl⟩
  · exact empty
  · have noDot := (each _ ((mem_words_iff each).mp member)).not_mem (c := '.') (by decide)
    rw [List.concat_eq_append,← List.cons_append,← List.append_assoc] at same
    obtain ⟨-,last⟩ := List.append_inj' same rfl
    simp [← List.singleton_inj.mp last] at noDot

theorem exists_hasEnding_iff {name : String} :
    (∃ front, Glob.HasEnding (words extensions) front name.toList) ↔
      EndsIn extensions name ∧ ¬IsOverlooked extensions name := by
  constructor
  · rintro ⟨front,word,member,alone,same⟩
    have inList := (mem_words_iff each).mp member
    refine ⟨⟨_,inList,String.ofList front,String.toList_inj.mp (by simpa using same)⟩,?_⟩
    rintro ⟨-,⟨other,otherInList,nonempty⟩,stem,rfl⟩
    have dotted : stem.toList ++ ['.'] = front ++ '.' :: word := by simpa using same
    have empty := eq_nil_of_concat_dot each member dotted
    have all := (words_eq_iff each (List.ne_nil_of_mem inList)).mp (alone empty)
    exact nonempty (all other otherInList)
  · rintro ⟨⟨extension,inList,stem,rfl⟩,kept⟩
    have member : extension.toList ∈ words extensions := (mem_words_iff each).mpr (by simpa)
    refine ⟨stem.toList,_,member,fun empty => ?_,by simp⟩
    obtain rfl : extension = "" := by simpa using empty
    refine (words_eq_iff each (List.ne_nil_of_mem inList)).mpr fun other otherInList => ?_
    by_contra nonempty
    exact kept ⟨inList,⟨other,otherInList,nonempty⟩,stem,by simp⟩

/-- A path has an ending if the last name on it has. -/
theorem exists_hasEnding_joined_iff (names : List String) {last : String} :
    (∃ front, Glob.HasEnding (words extensions) front
      (Text.joined ['/'] ((names ++ [last]).map String.toList))) ↔
        EndsIn extensions last ∧ ¬IsOverlooked extensions last := by
  rw [← exists_hasEnding_iff each,List.map_append,List.map_singleton]
  have concat {word : List Char} (member : word ∈ words extensions) :=
    Text.exists_joined_concat_iff (slash_not_mem each member) (names.map String.toList) last.toList
  constructor
  · rintro ⟨front,word,member,alone,same⟩
    obtain ⟨stem,same⟩ := (concat member).mp ⟨front,same⟩
    exact ⟨stem,word,member,alone,same⟩
  · rintro ⟨stem,word,member,alone,same⟩
    obtain ⟨front,same⟩ := (concat member).mpr ⟨stem,same⟩
    exact ⟨front,word,member,alone,same⟩

/-- A star takes in no slash, and so only a single name. -/
theorem exists_hasEnding_single_iff (names : List String) {last : String}
    (noSlash : '/' ∉ last.toList) :
    (∃ front, '/' ∉ front ∧ Glob.HasEnding (words extensions) front
      (Text.joined ['/'] ((names ++ [last]).map String.toList))) ↔
        names = [] ∧ EndsIn extensions last ∧ ¬IsOverlooked extensions last := by
  rw [← exists_hasEnding_joined_iff each names]
  constructor
  · rintro ⟨front,clean,word,member,alone,same⟩
    refine ⟨?_,front,word,member,alone,same⟩
    by_contra deep
    rw [List.map_append,List.map_singleton,Text.joined_concat (by simpa using deep)] at same
    have inPath : '/' ∈ front ++ '.' :: word := by rw [← same]; simp
    exact (List.mem_append.mp inPath).elim clean (slash_not_mem each member)
  · rintro ⟨rfl,front,word,member,alone,same⟩
    refine ⟨front,fun inFront => noSlash ?_,word,member,alone,same⟩
    change last.toList = _ at same
    rw [same]
    exact List.mem_append_left _ inFront

end Words

/-- Whatever the pattern is, what is found has one of the extensions. A name that ends in a dot and
a word has this word for its extension unless it begins with the dot, and then it is hidden. -/
theorem engineExtension?_of_mem_find (proper : disk.tree.Proper)
    (each : ∀ extension ∈ extensions, IsWord extension)
    (found : path ∈ find disk root pattern extensions) :
    ∃ extension ∈ extensions, engineExtension? path = some extension := by
  obtain ⟨nonempty,place,tokens,names,stands,parsed,listed,matched,rfl⟩ := mem_find_iff.mp found
  obtain ⟨before,rfl⟩ := Glob.exists_of_parse? (words_ne_nil nonempty each) (plain_words each)
    (toList_glob pattern extensions) parsed
  have ending := Glob.exists_hasEnding_of_isMatch (words_ne_nil nonempty each)
    (nodup_words extensions) before matched
  obtain ⟨some,named⟩ := Disk.names_of_mem_walk proper listed
  rcases List.eq_nil_or_concat names with rfl | ⟨names,last,rfl⟩
  · contradiction
  · rw [List.concat_eq_append] at named ending ⊢
    obtain ⟨⟨extension,inList,stem,rfl⟩,-⟩ := (exists_hasEnding_joined_iff each names).mp ending
    have shown := (named (stem ++ "." ++ extension) (by simp)).2
    have stemmed : stem.toList ≠ [] := by
      intro empty
      simp [FileTree.isHidden,empty] at shown
    refine ⟨extension,inList,?_⟩
    rw [engineExtension?,Path.extension?_below (root_ne_empty stands)
      (fun name member => (named name member).1) stemmed
      ((each extension inList).not_mem (by decide)) (by simp)]
    simp

theorem not_endsIn_nil {name : String} : ¬EndsIn [] name := by simp [EndsIn]

/-! ### Everything directly in a directory, and everything below it -/

/-- The files are those below `root` that wanted names lead to, none of them hidden. -/
def Lists (files : List String) (root : String) (directory : FileTree)
    (wanted : List String → String → Prop) : Prop :=
  ∀ path, path ∈ files ↔ ∃ names name, directory.Shows (names ++ [name]) ∧ wanted names name ∧
    path = Path.below root (names ++ [name])

section Lists

variable {files : List String} {directory : FileTree} {wanted others : List String → String → Prop}

theorem Lists.congr (lists : Lists files root directory wanted)
    (same : ∀ names name, directory.Shows (names ++ [name]) →
      (wanted names name ↔ others names name)) :
    Lists files root directory others := fun path =>
  (lists path).trans (exists_congr fun names => exists_congr fun name =>
    and_congr_right fun shows => and_congr_left fun _ => same names name shows)

/-- Where some of the wanted files are left out, all are listed if and only if these are none.
Different names give different paths, so no other file stands in for one that is left out. -/
theorem Lists.all_iff {leftOut : String → Prop} (rooted : root ≠ "") (proper : directory.Proper)
    (lists : Lists files root directory fun names name => wanted names name ∧ ¬leftOut name) :
    Lists files root directory wanted ↔
      ∀ names name, directory.Shows (names ++ [name]) → wanted names name → ¬leftOut name := by
  constructor
  · intro all names name shows isWanted
    have listed := (all _).mpr ⟨names,name,shows,isWanted,rfl⟩
    obtain ⟨others,other,otherShows,⟨-,kept⟩,same⟩ := (lists _).mp listed
    have sameNames := Path.eq_of_parts_below rooted ⟨by simp,by simp⟩
      (List.forall_mem_append.mpr ⟨shows.named proper,otherShows.named proper⟩)
      (congrArg (fun path => Path.parts path.toList) same)
    obtain ⟨-,last⟩ := List.append_inj' sameNames rfl
    exact List.singleton_inj.mp last ▸ kept
  · intro none
    exact lists.congr fun names name shows => and_iff_left_of_imp (none names name shows)

end Lists

section Linkless

variable {entries : List (String × FileTree)} (proper : disk.tree.Proper)
  (linkless : disk.tree.Linkless) (stands : disk.find? root = some (.directory entries))

include proper linkless stands

/-- Without links, what is found is what a glob matches of the files that no hidden name leads
to. -/
theorem lists_find (nonempty : extensions ≠ []) {tokens : List Glob.Token}
    (parsed : Glob.parse? (glob pattern extensions) = some tokens) :
    Lists (find disk root pattern extensions) root (.directory entries) fun names name =>
      Glob.isMatch tokens (Text.joined ['/'] ((names ++ [name]).map String.toList)) = true := by
  intro path
  obtain ⟨place,found,stands⟩ := Option.bind_eq_some_iff.mp stands
  simp only [mem_find_iff,found,parsed,Option.some.injEq]
  constructor
  · rintro ⟨-,_,_,listed,rfl,rfl,inWalk,matched,rfl⟩
    have shows := (Disk.mem_walk_iff proper linkless stands).mp inWalk
    rcases List.eq_nil_or_concat listed with rfl | ⟨names,name,rfl⟩
    · exact absurd rfl (FileTree.ne_nil_of_shows shows)
    · rw [List.concat_eq_append] at shows matched ⊢
      exact ⟨names,name,shows,matched,rfl⟩
  · rintro ⟨names,name,shows,matched,rfl⟩
    exact ⟨nonempty,place,tokens,_,rfl,rfl,(Disk.mem_walk_iff proper linkless stands).mpr shows,
      matched,rfl⟩

variable (each : ∀ extension ∈ extensions, IsWord extension)

include each

theorem lists_star : Lists (find disk root "*" extensions) root (.directory entries)
    fun names name => (names = [] ∧ EndsIn extensions name) ∧ ¬IsOverlooked extensions name := by
  by_cases nonempty : extensions = []
  · subst nonempty
    simp [Lists,find,not_endsIn_nil]
  · have lists := lists_find proper linkless stands nonempty (parse?_star each nonempty)
    obtain ⟨place,-,inPlace⟩ := Option.bind_eq_some_iff.mp stands
    refine lists.congr fun names name shows => ?_
    have noSlash : '/' ∉ name.toList := (shows.named (proper.at? inPlace).2 name (by simp)).2.1
    rw [Glob.isMatch_star_iff (words_ne_nil nonempty each) (nodup_words extensions),
      exists_hasEnding_single_iff each names noSlash,and_assoc]

theorem lists_leading_star : Lists (find disk root "**/*" extensions) root (.directory entries)
    fun _ name => EndsIn extensions name ∧ ¬IsOverlooked extensions name := by
  by_cases nonempty : extensions = []
  · subst nonempty
    simp [Lists,find,not_endsIn_nil]
  · have lists := lists_find proper linkless stands nonempty (parse?_leading_star each nonempty)
    refine lists.congr fun names name _ => ?_
    rw [Glob.isMatch_leading_star_iff (words_ne_nil nonempty each) (nodup_words extensions),
      exists_hasEnding_joined_iff each]

end Linkless

theorem find_of_not_directory (other : ∀ entries, disk.find? root ≠ some (.directory entries))
    (pattern : String) (extensions : List String) : find disk root pattern extensions = [] := by
  refine List.eq_nil_iff_forall_not_mem.mpr fun path found => ?_
  obtain ⟨-,place,_,names,stands,-,listed,-⟩ := mem_find_iff.mp found
  have nothing : disk.walk root place = [] :=
    Disk.walkFrom_of_not_directory fun entries inPlace =>
      other entries (Option.bind_eq_some_iff.mpr ⟨place,stands,inPlace⟩)
  rw [nothing] at listed
  contradiction

theorem nodup_find (proper : disk.tree.Proper) (root pattern : String)
    (extensions : List String) :
    (find disk root pattern extensions).Nodup := by
  refine (pairwise_find proper root pattern extensions).imp fun {a b} before same => ?_
  rw [same,Path.isBefore_iff] at before
  exact lt_irrefl _ before

/-- A directory `t` with two templates, a draft that is hidden and some notes. -/
def pages : FileTree := .directory [("t",.directory
  [(".draft.html.tmpl",.file []),("index.html.tmpl",.file (Utf8.encode "Hi".toList)),
    ("notes.md",.file []),
    ("user",.directory [("row.html.tmpl",.file (Utf8.encode "{name}".toList))])])]

theorem proper_pages : pages.Proper := by
  have row (bytes : Utf8.Bytes) : (FileTree.directory [("row.html.tmpl",.file bytes)]).Proper := by
    simp [FileTree.proper_directory_iff,FileTree.Proper.file,Entries.Ascending,IsFileName]
  refine .directory (List.pairwise_singleton _ _) (by decide) (List.forall_mem_singleton.mpr ?_)
  refine .directory ?_ (by decide) ?_
  · unfold Entries.Ascending
    decide
  · simp [FileTree.Proper.file,row]

theorem linkless_pages : pages.Linkless := by
  simp [pages,FileTree.linkless_directory_iff,FileTree.Linkless.file]

/-- In a tree without links, `*` finds the files in the directory that end in a dot and one of the
extensions, and `**/*` those anywhere below it, none of them led to by a hidden name. Left out are
only files that end in a dot while the empty extension stands beside another, so all these files are
found if and only if there is none such. What is found is strictly ascending, and in what is no
directory nothing is found. -/
theorem find_exact_iff (proper : disk.tree.Proper) (linkless : disk.tree.Linkless)
    (each : ∀ extension ∈ extensions, IsWord extension) (root : String) :
    (∀ entries, disk.find? root = some (.directory entries) →
      let directory := FileTree.directory entries
      Lists (find disk root "*" extensions) root directory (fun names name =>
        (names = [] ∧ EndsIn extensions name) ∧ ¬IsOverlooked extensions name) ∧
      Lists (find disk root "**/*" extensions) root directory (fun _ name =>
        EndsIn extensions name ∧ ¬IsOverlooked extensions name) ∧
      (Lists (find disk root "*" extensions) root directory (fun names name =>
          names = [] ∧ EndsIn extensions name) ↔
        ∀ name, directory.Shows [name] → ¬IsOverlooked extensions name) ∧
      (Lists (find disk root "**/*" extensions) root directory (fun _ name =>
          EndsIn extensions name) ↔
        ∀ names name, directory.Shows (names ++ [name]) → ¬IsOverlooked extensions name)) ∧
    ((∀ entries, disk.find? root ≠ some (.directory entries)) →
      ∀ pattern, find disk root pattern extensions = []) ∧
    ∀ pattern, (find disk root pattern extensions).Pairwise
        (fun a b => Path.isBefore a.toList b.toList = true) ∧
      (find disk root pattern extensions).Nodup := by
  refine ⟨fun entries stands => ?_,fun other pattern => ?_,fun pattern => ⟨?_,?_⟩⟩
  · have direct := lists_star proper linkless stands each
    have deep := lists_leading_star proper linkless stands each
    obtain ⟨place,found,inPlace⟩ := Option.bind_eq_some_iff.mp stands
    have rooted := root_ne_empty found
    have properThere := (proper.at? inPlace).2
    refine ⟨direct,deep,(direct.all_iff rooted properThere).trans ⟨?_,?_⟩,
      (deep.all_iff rooted properThere).trans ⟨?_,?_⟩⟩
    · exact fun none name shows overlooked =>
        none [] name shows ⟨rfl,overlooked.endsIn⟩ overlooked
    · rintro none _ name shows ⟨rfl,-⟩
      exact none name shows
    · exact fun none names name shows overlooked =>
        none names name shows overlooked.endsIn overlooked
    · exact fun none names name shows _ => none names name shows
  · exact find_of_not_directory other pattern extensions
  · exact pairwise_find proper root pattern extensions
  · exact nodup_find proper root pattern extensions

/-- The pages as a program sees them that works in the directory of the row. -/
def pagesBelow : Disk := { tree := pages, here := ["t","user"] }

/-- The row is found below the root, but not directly in it. The root may be absolute, or above the
directory that the program works in. -/
theorem find_exact_iff_pages :
    pagesBelow.tree.Proper ∧ pagesBelow.tree.Linkless ∧
    (∀ extension ∈ ["tmpl"], IsWord extension) ∧
    "/t/index.html.tmpl" ∈ find pagesBelow "/t" "*" ["tmpl"] ∧
    "/t/user/row.html.tmpl" ∉ find pagesBelow "/t" "*" ["tmpl"] ∧
    "../user/row.html.tmpl" ∈ find pagesBelow ".." "**/*" ["tmpl"] ∧
    find pagesBelow "t" "*" ["tmpl"] = [] := by
  have each : ∀ extension ∈ ["tmpl"], IsWord extension := by decide
  have proper : pagesBelow.tree.Proper := proper_pages
  have exact := find_exact_iff proper linkless_pages each
  obtain ⟨inRoot,-⟩ := exact "/t"
  obtain ⟨direct,-⟩ := inRoot _ rfl
  obtain ⟨above,-⟩ := exact ".."
  obtain ⟨-,deep,-⟩ := above _ rfl
  have kept (name : String) : ¬IsOverlooked ["tmpl"] name := by simp [IsOverlooked]
  obtain ⟨-,nothing,-⟩ := exact "t"
  refine ⟨proper,linkless_pages,each,?_,fun listed => ?_,?_,nothing (fun _ => nofun) "*"⟩
  · exact (direct _).mpr ⟨[],"index.html.tmpl",⟨by decide,_,rfl⟩,
      ⟨⟨rfl,"tmpl",by simp,"index.html",by decide⟩,kept _⟩,by decide⟩
  · obtain ⟨_,name,shows,⟨⟨rfl,-⟩,-⟩,same⟩ := (direct _).mp listed
    have there : pages.at? ["t"] = some _ := rfl
    have named := shows.named (proper.at? there).2
    have parts := congrArg (fun path => (Path.parts path.toList).length) same
    rw [Path.parts_below (by decide) (by simp) named,List.length_append,List.length_map] at parts
    exact absurd parts (by simp; decide)
  · exact (deep _).mpr ⟨["user"],"row.html.tmpl",⟨by decide,_,rfl⟩,
      ⟨⟨"tmpl",by simp,"row.html",by decide⟩,kept _⟩,by decide⟩

/-- A directory `t` with the file `x.` -/
def bareDot : FileTree := .directory [("t",.directory [("x.",.file [])])]

/-- Beside another extension the empty one does not count: `x.` ends in a dot and the empty
extension, and is not found. -/
theorem not_found_by_empty_extension :
    ¬∀ (disk : Disk) (root : String) (entries : List (String × FileTree))
      (extensions : List String), disk.tree.Proper → disk.tree.Linkless →
      disk.find? root = some (.directory entries) → extensions ≠ [] →
      (∀ extension ∈ extensions, IsWord extension) →
      Lists (find disk root "*" extensions) root (.directory entries)
        fun names name => names = [] ∧ EndsIn extensions name := by
  intro always
  have proper : bareDot.Proper := by
    simp [bareDot,FileTree.proper_directory_iff,FileTree.Proper.file,Entries.Ascending,IsFileName]
  have linkless : bareDot.Linkless := by
    simp [bareDot,FileTree.linkless_directory_iff,FileTree.Linkless.file]
  have lists := always bareDot "t" _ ["","tmpl"] proper linkless rfl (by simp) (by decide)
  have listed := (lists "t/x.").mpr
    ⟨[],"x.",⟨by decide,_,rfl⟩,⟨rfl,"",by simp,"x",by decide⟩,by decide⟩
  have nothing : find bareDot "t" "*" ["","tmpl"] = [] := by decide +kernel
  rw [nothing] at listed
  contradiction

end TemplateFiles

end ViewTemplates
