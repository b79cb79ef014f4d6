import Mathlib.Data.List.TakeWhile
import ViewTemplates.Proofs.Compilation
import ViewTemplates.Rendering.Assembly

/-! Putting a renderer together while the shared registry changes. The registry of a renderer is
settled by the first view that is compiled for it, so all views are compiled against the registry
that the renderer has. Between two changes, all who ask for the shared registry are given the
same one. -/
namespace ViewTemplates

namespace Registry.Shared

inductive Call
  | get
  | put (registry : Registry)
  | reset

def after (shared : Shared) : Call → Shared
  | .get => shared.get.2
  | .put registry => (shared.put registry).2
  | .reset => shared.reset

/-- What is given once is given again. -/
@[simp] theorem get_after_get (shared : Shared) : shared.get.2.get.1 = shared.get.1 := by
  cases current : shared.current with
  | none => simp [get,current,allocate]
  | some registry => simp [get,current]

@[simp] theorem get_after_put (shared : Shared) (registry : Registry) :
    (shared.put registry).2.get.1 = (shared.put registry).1 := rfl

end Registry.Shared

namespace Renderer

/-- A call on the shared registry, or one on the renderer that is put together. -/
inductive Act
  | share (call : Registry.Shared.Call)
  | choose (registry : Registry.Instance)
  | insert (view : View)
  | add (disk : Disk) (declaration : ViewDeclaration)
  | build

namespace Act

def isAdd : Act → Bool
  | .add _ _ => true
  | _ => false

def chosen? : Act → Option Registry.Instance
  | .choose registry => some registry
  | _ => none

/-- Whether the shared registry can be another one afterwards. -/
def replaces : Act → Bool
  | .share (.put _) | .share .reset => true
  | _ => false

def lastChosen (acts : List Act) : Option Registry.Instance := (acts.filterMap chosen?).getLast?

theorem lastChosen_cons (act : Act) (rest : List Act) :
    lastChosen (act :: rest) = (lastChosen rest).or act.chosen? := by
  cases chosen : act.chosen? with
  | none => simp [lastChosen,chosen]
  | some registry =>
    rw [lastChosen,List.filterMap_cons_some chosen,List.getLast?_cons]
    cases later : lastChosen rest <;> simp_all [lastChosen]

theorem lastChosen_append_of_unchosen {acts rest : List Act}
    (unchosen : ∀ registry, .choose registry ∉ rest) :
    lastChosen (acts ++ rest) = lastChosen acts := by
  have nothing : rest.filterMap chosen? = [] := by
    refine List.filterMap_eq_nil_iff.mpr fun act member => ?_
    cases act with
    | choose registry => exact absurd member (unchosen registry)
    | _ => rfl
  simp [lastChosen,nothing]

/-- Either no view is added, or one is the first. -/
theorem first_add (acts : List Act) : (∀ act ∈ acts, act.isAdd = false) ∨
    ∃ front disk declaration rest, acts = front ++ .add disk declaration :: rest ∧
      ∀ act ∈ front, act.isAdd = false := by
  induction acts with
  | nil => exact .inl (by simp)
  | cons act rest ih =>
    by_cases adds : act.isAdd = true
    · cases act with
      | add disk declaration => exact .inr ⟨[],disk,declaration,rest,rfl,by simp⟩
      | share | choose | insert | build => contradiction
    · have other : act.isAdd = false := by simpa using adds
      rcases ih with notAdd | ⟨front,disk,declaration,later,rfl,notAdd⟩
      · exact .inl (List.forall_mem_cons.mpr ⟨other,notAdd⟩)
      · exact .inr ⟨act :: front,disk,declaration,later,rfl,
          List.forall_mem_cons.mpr ⟨other,notAdd⟩⟩

end Act

/-- The shared registry, if none was chosen by name and it is needed. -/
def Assembly.given? (assembly : Assembly) (shared : Registry.Shared) :
    Option Registry.Instance :=
  match assembly.registry with
  | none => some shared.get.1
  | some _ => none

/-- The shared registry, the renderer that is put together until it is built or a view is refused,
and the renderer that was built. -/
structure Session where
  shared : Registry.Shared
  assembly : Option Assembly
  built : Option Renderer

namespace Session

def start (shared : Registry.Shared) : Session := ⟨shared,some .empty,none⟩

def after (session : Session) : Act → Session
  | .share call => { session with shared := session.shared.after call }
  | .choose registry =>
    { session with assembly := session.assembly.map (·.withRegistry registry) }
  | .insert view =>
    { session with assembly := session.assembly.bind fun a => (a.insert view).toOption }
  | .add disk declaration =>
    match session.assembly with
    | none => session
    | some assembly =>
      let (added,shared) := assembly.add disk session.shared declaration
      { session with shared := shared, assembly := added.toOption }
  | .build =>
    match session.assembly with
    | none => session
    | some assembly =>
      let (renderer,shared) := assembly.build session.shared
      ⟨shared,none,some renderer⟩

def execute (session : Session) (acts : List Act) : Session := acts.foldl after session

/-- The shared registry, if a call is given it: the call that asks for it is, and while no registry
is settled the calls that need one are. -/
def given? (session : Session) : Act → Option Registry.Instance
  | .share .get => some session.shared.get.1
  | .add _ _ | .build => session.assembly.bind (·.given? session.shared)
  | _ => none

theorem execute_append (session : Session) (first second : List Act) :
    session.execute (first ++ second) = (session.execute first).execute second :=
  List.foldl_append

end Session

namespace Assembly

theorem get_after_chosen (assembly : Assembly) (shared : Registry.Shared) :
    (assembly.chosen shared).2.get.1 = shared.get.1 := by
  unfold chosen
  split
  · rfl
  · exact shared.get_after_get

theorem fst_chosen (assembly : Assembly) (shared : Registry.Shared) :
    (assembly.chosen shared).1 = assembly.registry.getD shared.get.1 := by
  unfold chosen
  cases assembly.registry <;> rfl

theorem eq_of_given? {assembly : Assembly} {shared : Registry.Shared}
    {given : Registry.Instance} (asked : assembly.given? shared = some given) :
    given = shared.get.1 := by
  unfold given? at asked
  split at asked
  · exact (Option.some.inj asked).symm
  · contradiction

theorem of_insert {assembly next : Assembly} {view : View}
    (inserted : assembly.insert view = .ok next) :
    next.registry = assembly.registry ∧ next.views.find? view.name = some view ∧
      ∀ name held, assembly.views.find? name = some held →
        next.views.find? name = some held := by
  unfold insert at inserted
  split at inserted
  next => contradiction
  next fresh =>
    obtain rfl := Except.ok.inj inserted
    refine ⟨rfl,by simp,fun name held found => ?_⟩
    have differs : name ≠ view.name := by
      rintro rfl
      simp [KeyMap.contains,found] at fresh
    simpa [differs] using found

/-- A view that is added is compiled against the registry that is settled then. -/
theorem of_add {assembly next : Assembly} {disk : Disk} {shared : Registry.Shared}
    {declaration : ViewDeclaration} (added : (assembly.add disk shared declaration).1 = .ok next) :
    ∃ view, View.compile disk (assembly.chosen shared).1.registry declaration = .ok view ∧
      (assembly.withRegistry (assembly.chosen shared).1).insert view = .ok next := by
  simp only [add] at added
  cases compiled : View.compile disk (assembly.chosen shared).1.registry declaration with
  | error cause =>
    rw [compiled] at added
    contradiction
  | ok view =>
    rw [compiled] at added
    exact ⟨view,rfl,added⟩

/-- What a call makes of the renderer that is put together. -/
inductive Becomes (assembly : Assembly) (shared : Registry.Shared) : Act → Assembly → Prop
  | share (call : Registry.Shared.Call) : Becomes assembly shared (.share call) assembly
  | choose (registry : Registry.Instance) :
      Becomes assembly shared (.choose registry) (assembly.withRegistry registry)
  | insert {view : View} {next : Assembly} (inserted : assembly.insert view = .ok next) :
      Becomes assembly shared (.insert view) next
  | add {disk : Disk} {declaration : ViewDeclaration} {view : View} {next : Assembly}
      (compiled : View.compile disk (assembly.chosen shared).1.registry declaration = .ok view)
      (inserted : (assembly.withRegistry (assembly.chosen shared).1).insert view = .ok next) :
      Becomes assembly shared (.add disk declaration) next

end Assembly

namespace Session

variable {session : Session} {shared : Registry.Shared} {act : Act} {acts : List Act}
  {assembly next : Assembly}

theorem eq_ok_of_toOption {result : Except ε α} {value : α}
    (kept : result.toOption = some value) : result = .ok value := by
  cases result with
  | error cause => contradiction
  | ok other => exact congrArg Except.ok (Option.some.inj kept)

/-- One call makes of a renderer that is put together another one, and there is none without. -/
theorem becomes_of_after (ended : (session.after act).assembly = some next) :
    ∃ assembly, session.assembly = some assembly ∧ assembly.Becomes session.shared act next := by
  cases present : session.assembly with
  | none => cases act <;> simp [after,present] at ended
  | some assembly =>
    refine ⟨assembly,rfl,?_⟩
    cases act with
    | share call =>
      obtain rfl := Option.some.inj (present.symm.trans ended)
      exact .share call
    | choose registry =>
      simp only [after,present,Option.map_some] at ended
      exact Option.some.inj ended ▸ .choose registry
    | insert view =>
      simp only [after,present,Option.bind_some] at ended
      exact .insert (eq_ok_of_toOption ended)
    | add disk declaration =>
      simp only [after,present] at ended
      obtain ⟨view,compiled,inserted⟩ := Assembly.of_add (eq_ok_of_toOption ended)
      exact .add compiled inserted
    | build => simp [after,present] at ended

/-! ### What one call preserves -/

theorem views_kept (becomes : assembly.Becomes shared act next) {name : String} {held : View}
    (found : assembly.views.find? name = some held) : next.views.find? name = some held := by
  cases becomes with
  | share | choose => exact found
  | insert inserted | add _ inserted => exact (Assembly.of_insert inserted).2.2 name held found

/-- Once a registry is settled, only one that is chosen by name takes its place. -/
theorem registry_kept (becomes : assembly.Becomes shared act next) {registry : Registry.Instance}
    (settled : assembly.registry = some registry) :
    next.registry = some (act.chosen?.getD registry) := by
  cases becomes with
  | share => exact settled
  | choose => rfl
  | insert inserted => exact (Assembly.of_insert inserted).1.trans settled
  | add compiled inserted =>
    rw [(Assembly.of_insert inserted).1]
    simp [Assembly.withRegistry,Assembly.fst_chosen,settled,Act.chosen?]

/-- Where no view is compiled, a registry is settled by name only. -/
theorem registry_of_not_isAdd (becomes : assembly.Becomes shared act next)
    (notAdd : act.isAdd = false) : next.registry = act.chosen?.or assembly.registry := by
  cases becomes with
  | share | choose => rfl
  | insert inserted => exact (Assembly.of_insert inserted).1
  | add => contradiction

/-- Who asks next is given what would have been given before, unless it was replaced. -/
theorem get_after (session : Session) (kept : act.replaces = false) :
    (session.after act).shared.get.1 = session.shared.get.1 := by
  cases act with
  | share call =>
    cases call with
    | get => exact session.shared.get_after_get
    | put | reset => contradiction
  | choose | insert => rfl
  | add | build =>
    cases present : session.assembly with
    | none => simp only [after,present]
    | some assembly =>
      simp only [after,present]
      exact assembly.get_after_chosen session.shared

theorem eq_of_given? {given : Registry.Instance} (asked : session.given? act = some given) :
    given = session.shared.get.1 := by
  cases act with
  | share call =>
    cases call with
    | get => exact (Option.some.inj asked).symm
    | put | reset => contradiction
  | choose | insert => contradiction
  | add | build =>
    obtain ⟨assembly,-,needed⟩ := Option.bind_eq_some_iff.mp asked
    exact Assembly.eq_of_given? needed

theorem built_kept (session : Session) (act : Act) (done : session.assembly = none) :
    (session.after act).assembly = none ∧ (session.after act).built = session.built := by
  cases act <;> simp [after,done]

/-! ### What calls preserve -/

/-- A renderer that is still put together was so all along. -/
theorem present_of_execute (ended : (session.execute acts).assembly = some next) :
    ∃ assembly, session.assembly = some assembly := by
  induction acts generalizing session with
  | nil => exact ⟨next,ended⟩
  | cons act rest ih =>
    obtain ⟨middle,there⟩ := ih ended
    obtain ⟨assembly,present,-⟩ := becomes_of_after there
    exact ⟨assembly,present⟩

theorem exists_middle {rest : List Act} (present : session.assembly = some assembly)
    (ended : (session.execute (act :: rest)).assembly = some next) :
    ∃ middle, (session.after act).assembly = some middle ∧
      assembly.Becomes session.shared act middle := by
  have later : ((session.after act).execute rest).assembly = some next := ended
  obtain ⟨middle,there⟩ := present_of_execute later
  obtain ⟨before,same,becomes⟩ := becomes_of_after there
  obtain rfl := Option.some.inj (present.symm.trans same)
  exact ⟨middle,there,becomes⟩

theorem views_kept_execute (present : session.assembly = some assembly)
    (ended : (session.execute acts).assembly = some next) {name : String} {held : View}
    (found : assembly.views.find? name = some held) : next.views.find? name = some held := by
  induction acts generalizing session assembly with
  | nil =>
    obtain rfl := Option.some.inj (present.symm.trans ended)
    exact found
  | cons act rest ih =>
    obtain ⟨middle,there,becomes⟩ := exists_middle present ended
    exact ih there ended (views_kept becomes found)

theorem registry_kept_execute (present : session.assembly = some assembly)
    (ended : (session.execute acts).assembly = some next) {registry : Registry.Instance}
    (settled : assembly.registry = some registry) :
    next.registry = some ((Act.lastChosen acts).getD registry) := by
  induction acts generalizing session assembly registry with
  | nil =>
    obtain rfl := Option.some.inj (present.symm.trans ended)
    exact settled
  | cons act rest ih =>
    obtain ⟨middle,there,becomes⟩ := exists_middle present ended
    rw [ih there ended (registry_kept becomes settled),Act.lastChosen_cons]
    cases Act.lastChosen rest <;> rfl

theorem registry_of_not_isAdd_execute (present : session.assembly = some assembly)
    (ended : (session.execute acts).assembly = some next)
    (notAdd : ∀ act ∈ acts, act.isAdd = false) :
    next.registry = (Act.lastChosen acts).or assembly.registry := by
  induction acts generalizing session assembly with
  | nil =>
    obtain rfl := Option.some.inj (present.symm.trans ended)
    rfl
  | cons act rest ih =>
    obtain ⟨here,later⟩ := List.forall_mem_cons.mp notAdd
    obtain ⟨middle,there,becomes⟩ := exists_middle present ended
    rw [ih there ended later,registry_of_not_isAdd becomes here,Act.lastChosen_cons,
      Option.or_assoc]

theorem get_execute (session : Session) (kept : ∀ act ∈ acts, act.replaces = false) :
    (session.execute acts).shared.get.1 = session.shared.get.1 := by
  induction acts generalizing session with
  | nil => rfl
  | cons act rest ih =>
    obtain ⟨here,later⟩ := List.forall_mem_cons.mp kept
    exact (ih (session.after act) later).trans (session.get_after here)

theorem built_execute (session : Session) (acts : List Act) (done : session.assembly = none) :
    (session.execute acts).built = session.built := by
  induction acts generalizing session with
  | nil => rfl
  | cons act rest ih =>
    obtain ⟨still,same⟩ := session.built_kept act done
    exact (ih (session.after act) still).trans same

/-- Where no registry is chosen by name after a view is added, the registry it was compiled against
is that of the renderer, and the renderer has the view. -/
theorem of_execute_add {disk : Disk} {declaration : ViewDeclaration} {rest : List Act}
    (present : session.assembly = some assembly)
    (ended : (session.execute (.add disk declaration :: rest)).assembly = some next)
    (unchosen : ∀ registry, .choose registry ∉ rest) :
    next.registry = some (assembly.chosen session.shared).1 ∧
      ∃ view, View.compile disk (assembly.chosen session.shared).1.registry declaration = .ok view ∧
        next.views.find? view.name = some view := by
  obtain ⟨middle,there,becomes⟩ := exists_middle present ended
  cases becomes with
  | @add _ _ view _ compiled inserted =>
    obtain ⟨settled,held,-⟩ := Assembly.of_insert inserted
    have kept := registry_kept_execute there ended settled
    have nothing : Act.lastChosen ([] ++ rest) = Act.lastChosen [] :=
      Act.lastChosen_append_of_unchosen unchosen
    rw [List.nil_append] at nothing
    rw [nothing] at kept
    exact ⟨kept,view,compiled,views_kept_execute there ended held⟩

/-! ### What the registry is -/

/-- No registry is chosen by name once a view was added. -/
def ChoosesFirst (acts : List Act) : Prop :=
  ∀ front disk declaration rest, acts = front ++ .add disk declaration :: rest →
    ∀ registry, .choose registry ∉ rest

/-- The registry that is settled: the one chosen last, or else the one that is shared when the
first view is added, or when there is none at the end. -/
def settled (session : Session) (acts : List Act) : Registry.Instance :=
  (Act.lastChosen acts).getD
    (session.execute (acts.takeWhile fun act => !act.isAdd)).shared.get.1

theorem settled_of_not_isAdd (session : Session) (notAdd : ∀ act ∈ acts, act.isAdd = false) :
    session.settled acts =
      (Act.lastChosen acts).getD (session.execute acts).shared.get.1 := by
  have whole : acts.takeWhile (fun act => !act.isAdd) = acts :=
    List.takeWhile_eq_self_iff.mpr fun act member => by simp [notAdd act member]
  rw [settled,whole]

theorem settled_of_first_add (session : Session) {front rest : List Act} {disk : Disk}
    {declaration : ViewDeclaration} (notAdd : ∀ act ∈ front, act.isAdd = false)
    (unchosen : ∀ registry, .choose registry ∉ rest) :
    session.settled (front ++ .add disk declaration :: rest) =
      (Act.lastChosen front).getD (session.execute front).shared.get.1 := by
  have early : (front ++ .add disk declaration :: rest).takeWhile (fun act => !act.isAdd) =
      front := by
    rw [List.takeWhile_append_of_pos fun act member => by simp [notAdd act member]]
    simp [Act.isAdd]
  have last : Act.lastChosen (front ++ .add disk declaration :: rest) = Act.lastChosen front := by
    refine Act.lastChosen_append_of_unchosen fun registry member => ?_
    rcases List.mem_cons.mp member with same | later
    · contradiction
    · exact unchosen registry later
  rw [settled,early,last]

/-- The renderer that is built has the registry that is settled: by name where no view was added,
and otherwise when the first was. -/
theorem fst_chosen_execute (shared : Registry.Shared) (chooses : ChoosesFirst acts)
    (ended : ((start shared).execute acts).assembly = some next) :
    (next.chosen ((start shared).execute acts).shared).1 = (start shared).settled acts := by
  rcases Act.first_add acts with notAdd | ⟨front,disk,declaration,rest,rfl,notAdd⟩
  · have named := registry_of_not_isAdd_execute rfl ended notAdd
    rw [settled_of_not_isAdd _ notAdd,Assembly.fst_chosen,named]
    simp [Assembly.empty]
  · have unchosen := chooses front disk declaration rest rfl
    have rests := ended
    rw [execute_append] at rests
    obtain ⟨middle,there⟩ := present_of_execute rests
    have named := registry_of_not_isAdd_execute rfl there notAdd
    have kept := (of_execute_add there rests unchosen).1
    rw [settled_of_first_add _ notAdd unchosen,Assembly.fst_chosen,kept,Option.getD_some,
      Assembly.fst_chosen,named]
    simp [Assembly.empty]

/-- A renderer that is built has the registry that is settled, and whatever is called afterwards it
keeps it. Every view that was added on the way was compiled against that registry. Between two
changes of the shared registry all who are given it are given the same one, and it is the one that
was put there last, if that was the last change. -/
theorem built_with_settled_registry (shared : Registry.Shared) :
    (∀ before after assembly, ChoosesFirst before →
      ((start shared).execute before).assembly = some assembly →
        ∃ renderer, ((start shared).execute (before ++ .build :: after)).built = some renderer ∧
          renderer.registry = (start shared).settled before ∧
          ∀ front disk declaration rest, before = front ++ .add disk declaration :: rest →
            ∃ adding view, ((start shared).execute front).assembly = some adding ∧
              (adding.chosen ((start shared).execute front).shared).1 = renderer.registry ∧
              View.compile disk renderer.registry.registry declaration = .ok view ∧
              renderer.views.find? view.name = some view) ∧
    ∀ first quiet, (∀ act ∈ quiet, Act.replaces act = false) →
      ∃ current, (∀ front act rest given, quiet = front ++ act :: rest →
          ((start shared).execute (first ++ front)).given? act = some given → given = current) ∧
        ∀ earlier registry, first = earlier ++ [.share (.put registry)] →
          (((start shared).execute earlier).shared.put registry).1 = current := by
  refine ⟨fun before after assembly chooses ready => ?_,fun first quiet kept => ?_⟩
  · refine ⟨(assembly.build ((start shared).execute before).shared).1,?_,?_,?_⟩
    · rw [execute_append]
      refine (built_execute _ after ?_).trans ?_ <;> simp [Session.after,ready]
    · exact fst_chosen_execute shared chooses ready
    · rintro front disk declaration rest rfl
      have unchosen := chooses front disk declaration rest rfl
      have ended := ready
      rw [execute_append] at ended
      obtain ⟨adding,there⟩ := present_of_execute ended
      obtain ⟨settled,view,compiled,held⟩ := of_execute_add there ended unchosen
      have same : (assembly.build ((start shared).execute
          (front ++ .add disk declaration :: rest)).shared).1.registry =
            (adding.chosen ((start shared).execute front).shared).1 := by
        refine (Assembly.fst_chosen assembly _).trans ?_
        rw [settled,Option.getD_some]
      exact ⟨adding,view,there,same.symm,same ▸ compiled,held⟩
  · refine ⟨((start shared).execute first).shared.get.1,?_,?_⟩
    · rintro front act rest given rfl asked
      rw [eq_of_given? asked,execute_append]
      exact get_execute _ fun act member => kept act (List.mem_append_left _ member)
    · rintro earlier registry rfl
      rw [execute_append]
      exact (Registry.Shared.get_after_put _ registry).symm

/-- The shared registry is put in place again after a view was added. -/
def replacing : List Act :=
  [.share .get,.add TemplateFiles.pages View.pagesView,.share (.put .default)]

/-- The renderer has the registry that was shared first, and not the equal one that came later. -/
theorem built_with_settled_registry_replacing :
    ChoosesFirst replacing ∧
    (∃ assembly, ((start {}).execute replacing).assembly = some assembly) ∧
    (∃ renderer view,
      ((start {}).execute (replacing ++ .build :: [.share .get])).built = some renderer ∧
        renderer.registry = ⟨0,.default⟩ ∧
        View.compile TemplateFiles.pages .default View.pagesView = .ok view ∧
        renderer.views.find? view.name = some view) ∧
    (∀ act ∈ [.build,.share .get], Act.replaces act = false) ∧
    ((start {}).execute (replacing ++ [.build])).given? (.share .get) = some ⟨1,.default⟩ := by
  have chooses : ChoosesFirst replacing := by
    intro front disk declaration rest same registry member
    have : Act.choose registry ∈ replacing := by
      rw [same]
      exact List.mem_append_right _ (List.mem_cons_of_mem _ member)
    simp [replacing] at this
  have quiet : ∀ act ∈ [.build,.share .get], Act.replaces act = false := by simp [Act.replaces]
  obtain ⟨view,compiled⟩ := View.compile_pages
  have ready : ∃ assembly, ((start {}).execute replacing).assembly = some assembly := by
    change ∃ assembly, (Assembly.empty.add TemplateFiles.pages (Registry.Shared.get {}).2
      View.pagesView).1.toOption = some assembly
    rw [Assembly.add]
    change ∃ assembly, (View.compile TemplateFiles.pages .default View.pagesView >>= _).toOption =
      some assembly
    rw [compiled]
    exact ⟨_,rfl⟩
  obtain ⟨assembly,present⟩ := ready
  obtain ⟨built,given⟩ := built_with_settled_registry {}
  refine ⟨chooses,⟨assembly,present⟩,?_,quiet,?_⟩
  · obtain ⟨renderer,done,settled,views⟩ := built replacing [.share .get] assembly chooses present
    obtain ⟨-,held,-,-,recompiled,found⟩ := views [.share .get] _ _ [.share (.put .default)] rfl
    rw [settled] at recompiled
    exact ⟨renderer,held,done,settled,recompiled,found⟩
  · obtain ⟨current,same,last⟩ := given replacing [.build,.share .get] quiet
    have put : ⟨1,.default⟩ = current := last [.share .get,.add _ _] .default rfl
    rw [put]
    exact congrArg some (same [.build] (.share .get) [] _ rfl rfl)

end Session

end Renderer

end ViewTemplates
