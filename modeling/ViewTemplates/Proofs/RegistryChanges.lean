import ViewTemplates.Registry.Basic

/-! Changes of a registry, made one after the other. The last change to a key decides, whatever the
others are, and a key without one keeps its default; so a change leaves all other keys as they are,
and changes to different keys can be made in either order. -/
namespace ViewTemplates.Registry

inductive Key
  | engine (extension : String)
  | encoder (format : String)
deriving DecidableEq

namespace Key

abbrev Value : Key → Type
  | .engine _ => Engine
  | .encoder _ => Encoder

def default? : (key : Key) → Option key.Value
  | .engine extension => Engine.defaults.find? extension
  | .encoder format => Encoder.defaults.find? format

def isEngine : Key → Bool
  | .engine _ => true
  | .encoder _ => false

end Key

def find? (registry : Registry) : (key : Key) → Option key.Value
  | .engine extension => registry.engine? extension
  | .encoder format => registry.encoders.find? format

/-- A change to one key: a value for it, or that it has none. -/
inductive Change
  | put (key : Key) (value : key.Value)
  | disable (key : Key)

namespace Change

def key : Change → Key
  | .put key _ | .disable key => key

def value? : (change : Change) → Option change.key.Value
  | .put _ value => some value
  | .disable _ => none

end Change

namespace Changes

def after (changes : Changes) : Change → Changes
  | .put (.engine extension) engine => changes.engine extension engine
  | .put (.encoder format) encoder => changes.encoder format encoder
  | .disable (.engine extension) => changes.disableEngine extension
  | .disable (.encoder format) => changes.disableEncoder format

def afterAll (changes : Changes) (made : List Change) : Changes := made.foldl after changes

/-- What is noted for a key, if anything is. -/
def noted? (changes : Changes) : (key : Key) → Option (Option key.Value)
  | .engine extension => changes.engines.find? extension
  | .encoder format => changes.encoders.find? format

variable {made rest : List Change} {change first second : Change} {key : Key}

/-- Changes are what they note for each key. -/
theorem ext_noted? {left right : Changes} (same : ∀ key, left.noted? key = right.noted? key) :
    left = right := by
  obtain ⟨engines,encoders⟩ := left
  obtain ⟨engines',encoders'⟩ := right
  have engine : engines = engines' :=
    KeyMap.eq_of_find?_eq fun extension => same (.engine extension)
  have encoder : encoders = encoders' :=
    KeyMap.eq_of_find?_eq fun format => same (.encoder format)
  rw [engine,encoder]

/-! ### One change -/

/-- A change is noted for its key, whatever was noted before. -/
theorem noted?_after_self (changes : Changes) (change : Change) :
    (changes.after change).noted? change.key = some change.value? := by
  cases change with
  | put key value =>
    cases key <;> simp [after,noted?,engine,encoder,Change.key,Change.value?]
  | disable key =>
    cases key <;> simp [after,noted?,disableEngine,disableEncoder,Change.key,Change.value?]

theorem noted?_after_of_ne (changes : Changes) (other : change.key ≠ key) :
    (changes.after change).noted? key = changes.noted? key := by
  cases change with
  | put changed value =>
    cases changed <;> cases key <;>
      simp_all [after,noted?,engine,encoder,Change.key,eq_comm]
  | disable changed =>
    cases changed <;> cases key <;>
      simp_all [after,noted?,disableEngine,disableEncoder,Change.key,eq_comm]

theorem after_comm (changes : Changes) (differ : first.key ≠ second.key) :
    (changes.after first).after second = (changes.after second).after first := by
  apply ext_noted?
  intro key
  by_cases isFirst : first.key = key
  · subst isFirst
    rw [noted?_after_of_ne _ differ.symm,noted?_after_self,noted?_after_self]
  · rw [noted?_after_of_ne (changes.after second) isFirst]
    by_cases isSecond : second.key = key
    · subst isSecond
      rw [noted?_after_self,noted?_after_self]
    · rw [noted?_after_of_ne _ isSecond,noted?_after_of_ne _ isFirst,noted?_after_of_ne _ isSecond]

/-! ### Changes in a row -/

theorem afterAll_append (changes : Changes) (front rest : List Change) :
    changes.afterAll (front ++ rest) = (changes.afterAll front).afterAll rest :=
  List.foldl_append

theorem noted?_afterAll_of_ne (changes : Changes) (other : ∀ change ∈ made, change.key ≠ key) :
    (changes.afterAll made).noted? key = changes.noted? key := by
  induction made generalizing changes with
  | nil => rfl
  | cons change rest ih =>
    obtain ⟨here,later⟩ := List.forall_mem_cons.mp other
    exact (ih _ later).trans (changes.noted?_after_of_ne here)

theorem noted?_afterAll_last (changes : Changes) (front : List Change)
    (last : ∀ later ∈ rest, later.key ≠ change.key) :
    (changes.afterAll (front ++ change :: rest)).noted? change.key = some change.value? := by
  rw [afterAll_append]
  exact (noted?_afterAll_of_ne _ last).trans (noted?_after_self _ change)

/-- Changes that are left out do not matter to a key unless they are to it. -/
theorem noted?_afterAll_filter (changes : Changes) (made : List Change) {kept : Change → Bool}
    (keeps : ∀ change, change.key = key → kept change = true) :
    (changes.afterAll (made.filter kept)).noted? key = (changes.afterAll made).noted? key := by
  -- What is left out may be noted for other keys, so the two need to agree at this key only.
  suffices ∀ others : Changes, others.noted? key = changes.noted? key →
      (others.afterAll (made.filter kept)).noted? key = (changes.afterAll made).noted? key from
    this changes rfl
  induction made generalizing changes with
  | nil => exact fun others same => same
  | cons change rest ih =>
    intro others same
    by_cases mine : change.key = key
    · rw [List.filter_cons_of_pos (keeps change mine)]
      apply ih (changes.after change) (others.after change)
      subst mine
      rw [noted?_after_self,noted?_after_self]
    · have unchanged := changes.noted?_after_of_ne mine
      by_cases keep : kept change = true
      · rw [List.filter_cons_of_pos keep]
        apply ih (changes.after change) (others.after change)
        rw [others.noted?_after_of_ne mine,unchanged,same]
      · rw [List.filter_cons_of_neg keep]
        exact ih (changes.after change) others (same.trans unchanged.symm)

/-- Two changes that follow each other can change places if they are to different keys. -/
theorem afterAll_swap (changes : Changes) (front rest : List Change)
    (differ : first.key ≠ second.key) :
    changes.afterAll (front ++ first :: second :: rest) =
      changes.afterAll (front ++ second :: first :: rest) := by
  rw [afterAll_append,afterAll_append]
  exact congrArg (afterAll · rest) (after_comm _ differ)

end Changes

def changed (made : List Change) : Registry := build (.afterAll {} made)

/-- What is noted for a key decides, and the default where nothing is. -/
theorem find?_build (changes : Changes) (key : Key) :
    (build changes).find? key = (changes.noted? key).getD key.default? := by
  cases key with
  | engine extension => exact KeyMap.find?_overridden _ changes.engines extension
  | encoder format => exact KeyMap.find?_overridden _ changes.encoders format

theorem find?_changed_filter (made : List Change) (key : Key) {kept : Change → Bool}
    (keeps : ∀ change, change.key = key → kept change = true) :
    (changed made).find? key = (changed (made.filter kept)).find? key := by
  rw [changed,changed,find?_build,find?_build,Changes.noted?_afterAll_filter {} made keeps]

/-- Of the changes to a key the last decides, and a key without one keeps its default. Changes of
engines leave the encoders as they are, those of encoders the engines, and changes to different keys
can be made in either order. The extensions are listed in ascending order, each that has an engine
once. -/
theorem last_change_decides (made : List Change) :
    (∀ front change rest, made = front ++ change :: rest →
      (∀ later ∈ rest, later.key ≠ change.key) →
        (changed made).find? change.key = change.value?) ∧
    (∀ key, (∀ change ∈ made, change.key ≠ key) → (changed made).find? key = key.default?) ∧
    (∀ template format, Naming.format? template = some format →
      (changed made).encoder? template = (changed made).find? (.encoder format)) ∧
    (changed made).engines = (changed (made.filter (·.key.isEngine))).engines ∧
    (changed made).encoders = (changed (made.filter (!·.key.isEngine))).encoders ∧
    (∀ front first second rest, made = front ++ first :: second :: rest →
      first.key ≠ second.key → changed made = changed (front ++ second :: first :: rest)) ∧
    (changed made).engineExtensions.Pairwise (· < ·) ∧
    ∀ extension, extension ∈ (changed made).engineExtensions ↔
      ∃ engine, (changed made).engine? extension = some engine := by
  refine ⟨?_,?_,?_,?_,?_,?_,KeyMap.keys_ascending _,?_⟩
  · rintro front change rest rfl last
    rw [changed,find?_build,Changes.noted?_afterAll_last {} front last,Option.getD_some]
  · intro key other
    rw [changed,find?_build,Changes.noted?_afterAll_of_ne {} other]
    cases key <;> rfl
  · intro template format named
    rw [encoder?,named]
    rfl
  · apply KeyMap.eq_of_find?_eq
    intro extension
    exact find?_changed_filter made (.engine extension) fun change mine => by rw [mine]; rfl
  · apply KeyMap.eq_of_find?_eq
    intro format
    exact find?_changed_filter made (.encoder format) fun change mine => by rw [mine]; rfl
  · rintro front first second rest rfl differ
    rw [changed,changed,Changes.afterAll_swap {} front rest differ]
  · intro extension
    exact KeyMap.mem_keys_iff.trans Option.isSome_iff_exists

/-- An extension that is disabled and comes back, beside a format of the same name. -/
def comingBack : List Change :=
  [.put (.engine "tpl") .simple,.disable (.engine "tpl"),.put (.encoder "tpl") (.builtIn .json),
    .put (.engine "tpl") .data,.disable (.encoder "html"),.disable (.engine "txt")]

theorem last_change_decides_comingBack :
    (changed comingBack).engine? "tpl" = some .data ∧
    (changed comingBack).encoder? "a.html" = none ∧
    (changed comingBack).engine? "j2" = Engine.defaults.find? "j2" ∧
    "html" ∉ (changed comingBack).engineExtensions := by
  obtain ⟨last,kept,encoders,-,-,-,-,listed⟩ := last_change_decides comingBack
  have html : Naming.format? "a.html" = some "html" := by decide +kernel
  have unlisted : (changed comingBack).engine? "html" = none :=
    kept (.engine "html") (by simp [comingBack,Change.key])
  refine ⟨?_,?_,?_,?_⟩
  · exact last (comingBack.take 3) (.put (.engine "tpl") .data) (comingBack.drop 4) rfl
      (by simp [comingBack,Change.key])
  · rw [encoders "a.html" "html" html]
    exact last (comingBack.take 4) (.disable (.encoder "html")) (comingBack.drop 5) rfl
      (by simp [comingBack,Change.key])
  · exact kept (.engine "j2") (by simp [comingBack,Change.key])
  · rw [listed,unlisted]
    simp

end ViewTemplates.Registry
