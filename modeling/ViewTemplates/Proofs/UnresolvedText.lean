import ViewTemplates.Proofs.FilledText
import ViewTemplates.Proofs.Placeholders

/-! What is left of a text whose placeholders lead nowhere: the text itself, each character of it.
Where no brace is doubled, the segments of a text are its pieces as they stand there, so nothing can
be lost but in what placeholders are replaced by. -/
namespace ViewTemplates

namespace Text

theorem eq_of_cut_eq_none {separator : Char} {s before : List Char}
    (uncut : cut separator s = (before,none)) : before = s := by
  induction s generalizing before with
  | nil => exact (Prod.mk.inj uncut).1.symm
  | cons c rest ih =>
    simp only [cut] at uncut
    split at uncut
    next => simp at uncut
    next =>
      obtain ⟨rfl,uncutRest⟩ := Prod.mk.inj uncut
      exact congrArg (c :: ·) (ih (Prod.ext rfl uncutRest))

end Text

namespace Segment

variable {s collected : List Char} {segments : List Segment}

/-- No brace of the text is doubled. -/
structure Undoubled (s : List Char) : Prop where
  opening : ¬['{','{'] <:+: s
  closing : ¬['}','}'] <:+: s

theorem Undoubled.of_suffix {rest : List Char} (undoubled : Undoubled s) (suffix : rest <:+ s) :
    Undoubled rest :=
  ⟨fun inside => undoubled.opening (inside.trans suffix.isInfix),
    fun inside => undoubled.closing (inside.trans suffix.isInfix)⟩

/-- A segment as it stands in a text without doubled braces. -/
def spelled : Segment → List Char
  | .literal text => text
  | .placeholder _ raw => '{' :: raw ++ ['}']

def spelledAll (segments : List Segment) : List Char := segments.flatMap spelled

theorem spelledAll_flush (collected : List Char) (segments : List Segment) :
    spelledAll (flush collected segments) = collected.reverse ++ spelledAll segments := by
  unfold flush
  split
  next empty => simp_all
  next => simp [spelledAll,spelled]

/-- The segments are the pieces of the text in their order, none lost and none changed. -/
theorem spelledAll_of_parseFrom (lenient : Bool) (collected s : List Char) :
    Undoubled s → ∀ segments, parseFrom lenient collected s = .ok segments →
      spelledAll segments = collected.reverse ++ s := by
  fun_induction parseFrom lenient collected s with
  | case1 collected =>
    intro _ segments read
    obtain rfl := Except.ok.inj read
    rw [spelledAll_flush]
    rfl
  | case2 collected rest => exact fun undoubled => absurd ⟨[],rest,rfl⟩ undoubled.opening
  | case3 collected rest _ raw found kept =>
    -- An unclosed brace is text with all that follows it.
    intro _ segments read
    obtain rfl := Except.ok.inj read
    obtain rfl := Text.eq_of_cut_eq_none found
    rw [spelledAll_flush]
    simp [spelledAll]
  | case4 | case6 => intros; contradiction
  | case5 collected rest _ raw after found _ path blank kept ih =>
    intro undoubled segments read
    obtain ⟨rfl,-⟩ := Text.of_cut found
    have suffix : after <:+ '{' :: (raw ++ '}' :: after) := ⟨'{' :: raw ++ ['}'],by simp⟩
    rw [ih (undoubled.of_suffix suffix) segments read]
    simp
  | case7 collected rest _ raw after found _ path named ih =>
    intro undoubled segments read
    obtain ⟨rfl,-⟩ := Text.of_cut found
    have suffix : after <:+ '{' :: (raw ++ '}' :: after) := ⟨'{' :: raw ++ ['}'],by simp⟩
    rcases later : parseFrom lenient [] after with fault | others
    · rw [later] at read
      contradiction
    · rw [later] at read
      obtain rfl := Except.ok.inj read
      have whole := ih (undoubled.of_suffix suffix) others later
      rw [spelledAll_flush]
      simp only [spelledAll,List.flatMap_cons,spelled] at whole ⊢
      rw [whole]
      simp
  | case8 collected rest => exact fun undoubled => absurd ⟨[],rest,rfl⟩ undoubled.closing
  | case9 collected c rest _ _ _ ih =>
    intro undoubled segments read
    rw [ih (undoubled.of_suffix (List.suffix_cons c rest)) segments read]
    simp

theorem spelledAll_parseLenient (undoubled : Undoubled s) : spelledAll (parseLenient s) = s :=
  spelledAll_of_parseFrom true [] s undoubled _ (parseFrom_eq_parseLenient s)

/-- Placeholders that lead nowhere are written as they stand, escaped or not. -/
theorem renderAll_of_unresolved {a : Assigns}
    (unresolved : ∀ path raw, .placeholder path raw ∈ segments → a.resolve? path = none)
    (escape : Bool) : renderAll escape a segments = spelledAll segments := by
  refine List.flatMap_congr fun segment member => ?_
  cases segment with
  | literal text => rfl
  | placeholder path raw => simp only [render,spelled,unresolved path raw member]

/-- A text without doubled braces, of whose placeholders none leads anywhere, renders to itself:
blank braces, single ones and the blanks in placeholders are kept. The same goes for a template that
is compiled from it, under whatever name. -/
theorem unresolved_text_kept {s : String} {a : Assigns} (undoubled : Undoubled s.toList)
    (unresolved : ∀ path raw, .placeholder path raw ∈ parseLenient s.toList →
      a.resolve? path = none) :
    (∀ escape, String.ofList (renderAll escape a (parseLenient s.toList)) = s) ∧
    ∀ name template, Engine.simple.compile name s = .ok template →
      template.render a = .ok (.safe s) := by
  have kept (escape : Bool) :
      String.ofList (renderAll escape a (parseLenient s.toList)) = s := by
    rw [renderAll_of_unresolved unresolved,spelledAll_parseLenient undoubled,String.ofList_toList]
  refine ⟨kept,fun name template compiled => ?_⟩
  obtain ⟨segments,read,rfl⟩ := Engine.compile_simple_eq_ok_iff.mp compiled
  rw [Template.render_simple,← parseLenient_of_parse read,kept]

/-- A placeholder with blanks in it, blank braces, and braces that stand alone. -/
def straySource : String := "\x7b x \x7d\x7b \x7d \x7d<\x7by"

theorem unresolved_text_kept_stray :
    Undoubled straySource.toList ∧
    parseLenient straySource.toList =
      [.placeholder ['x'] [' ','x',' '],.literal "\x7b \x7d \x7d<\x7by".toList] ∧
    (∀ escape, String.ofList (renderAll escape .empty (parseLenient straySource.toList)) =
      straySource) ∧
    Undoubled "<\x7b x \x7d \x7d".toList ∧ ∃ template,
      Engine.simple.compile "page.html" "<\x7b x \x7d \x7d" = .ok template ∧
      template.render .empty = .ok (.safe "<\x7b x \x7d \x7d") := by
  have nowhere (path : List Char) (named : path = ['x']) : Assigns.empty.resolve? path = none := by
    subst named
    rfl
  have stray : parseLenient straySource.toList =
      [.placeholder ['x'] [' ','x',' '],.literal "\x7b \x7d \x7d<\x7by".toList] := by cbv
  have undoubled : Undoubled straySource.toList := by
    constructor <;> simp [straySource,List.infix_cons_iff]
  obtain ⟨kept,-⟩ := unresolved_text_kept (a := .empty) undoubled fun path raw member => by
    rw [stray] at member
    simp only [List.mem_cons,placeholder.injEq,reduceCtorEq,List.not_mem_nil,or_self,or_false]
      at member
    exact nowhere path member.1
  have closed : Undoubled "<\x7b x \x7d \x7d".toList := by
    constructor <;> simp [List.infix_cons_iff]
  have parsed : parse "<\x7b x \x7d \x7d".toList =
      .ok [.literal ['<'],.placeholder ['x'] [' ','x',' '],.literal [' ','}']] := by cbv
  obtain ⟨-,renders⟩ := unresolved_text_kept (a := .empty) closed fun path raw member => by
    rw [parseLenient_of_parse parsed] at member
    simp only [List.mem_cons,placeholder.injEq,reduceCtorEq,List.not_mem_nil,false_or,or_false]
      at member
    exact nowhere path member.1
  have compiled := Engine.compile_simple_eq_ok_iff.mpr
    ⟨_,parsed,(rfl : _ = Template.simple (Naming.isMarkup "page.html") _)⟩
  exact ⟨undoubled,stray,kept,closed,_,compiled,renders _ _ compiled⟩

end Segment

end ViewTemplates
