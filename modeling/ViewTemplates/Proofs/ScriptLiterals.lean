import ViewTemplates.Output.Encoder
import ViewTemplates.Proofs.JsonReading
import ViewTemplates.Proofs.Utf8

/-! Data as script literals. In the text of a literal a backslash stands before every slash that
follows `<`, so no closing tag begins in it. As `<` is found in strings only, and there the
backslash escapes nothing but the slash, the text is read as the same data. -/
namespace ViewTemplates

namespace Text

/-- The text with a backslash before every slash that follows `<`. -/
def guarded : List Char → List Char
  | [] => []
  | c :: rest =>
    if c = '<' ∧ rest.head? = some '/' then c :: '\\' :: guarded rest else c :: guarded rest

theorem guarded_cons_of_ne {c : Char} (other : c ≠ '<') (s : List Char) :
    guarded (c :: s) = c :: guarded s :=
  if_neg fun both => other both.1

theorem head?_guarded (s : List Char) : (guarded s).head? = s.head? := by
  cases s with
  | nil => rfl
  | cons c s =>
    unfold guarded
    split <;> rfl

theorem replaceFrom_eq_guarded {fuel : Nat} {s : List Char} (enough : s.length < fuel) :
    replaceFrom fuel ['<','/'] ['<','\\','/'] s = guarded s := by
  induction fuel generalizing s with
  | zero => exact absurd enough (Nat.not_lt_zero _)
  | succ fuel ih =>
    cases s with
    | nil => rfl
    | cons c rest =>
      have begins : ['<','/'].isPrefixOf (c :: rest) = true ↔ c = '<' ∧ rest.head? = some '/' := by
        cases rest <;> simp [eq_comm (a := '<'),eq_comm (a := '/')]
      simp only [List.length_cons] at enough
      simp only [replaceFrom,begins,guarded]
      split
      next both =>
        obtain ⟨rfl,next⟩ := both
        obtain ⟨after,rfl⟩ := List.head?_eq_some_iff.mp next
        simp only [List.length_cons] at enough
        simp [ih (by omega : after.length < fuel),guarded]
      next => rw [ih (by omega)]

theorem replaceAll_eq_guarded (s : List Char) :
    replaceAll ['<','/'] ['<','\\','/'] s = guarded s :=
  replaceFrom_eq_guarded (Nat.lt_succ_self s.length)

/-- What is put in makes no closing tag where there was none. -/
theorem not_infix_guarded (s : List Char) : ¬['<','/'] <:+: guarded s := by
  induction s with
  | nil => simp [guarded]
  | cons c s ih =>
    have head := head?_guarded s
    unfold guarded
    split
    next both =>
      rw [List.infix_cons_iff,List.infix_cons_iff]
      rintro (⟨t,same⟩ | ⟨t,same⟩ | inside)
      · simp at same
      · simp at same
      · exact ih inside
    next other =>
      rw [List.infix_cons_iff]
      rintro (⟨t,same⟩ | inside)
      · simp only [List.cons_append,List.nil_append,List.cons.injEq] at same
        obtain ⟨rfl,rest⟩ := same
        rw [← rest] at head
        exact other ⟨rfl,head.symm⟩
      · exact ih inside

theorem guarded_append_of_not_mem {s : List Char} (absent : '<' ∉ s) (t : List Char) :
    guarded (s ++ t) = s ++ guarded t := by
  induction s with
  | nil => rfl
  | cons c s ih =>
    obtain ⟨differs,absent⟩ := List.ne_and_not_mem_of_not_mem_cons absent
    rw [List.cons_append,guarded_cons_of_ne differs.symm,ih absent,List.cons_append]

theorem guarded_of_not_mem {s : List Char} (absent : '<' ∉ s) : guarded s = s := by
  simpa [guarded] using guarded_append_of_not_mem absent []

/-- Two texts are guarded each on its own, unless a slash comes first in the second. -/
theorem guarded_append {s t : List Char} (apart : t.head? ≠ some '/') :
    guarded (s ++ t) = guarded s ++ guarded t := by
  induction s with
  | nil => rfl
  | cons c s ih =>
    have next : (s ++ t).head? = some '/' ↔ s.head? = some '/' := by
      cases s <;> simp [apart]
    simp only [List.cons_append,guarded,next,ih]
    split <;> rfl

theorem guarded_joined (parts : List (List Char)) :
    guarded (joined [','] parts) = joined [','] (parts.map guarded) := by
  fun_induction joined [','] parts with
  | case1 => rfl
  | case2 part => rfl
  | case3 part next rest ih =>
    rw [List.append_assoc,guarded_append (by simp),List.singleton_append,
      guarded_cons_of_ne (by decide),ih]
    simp [joined]

/-- Between delimiters that are neither of the two characters. -/
theorem guarded_delimited {first last : Char} (opening : first ≠ '<') (closing : last ≠ '<')
    (apart : last ≠ '/') (s : List Char) :
    guarded (first :: s ++ [last]) = first :: guarded s ++ [last] := by
  rw [List.cons_append,guarded_cons_of_ne opening,guarded_append (by simpa using apart),
    guarded_cons_of_ne closing]
  rfl

end Text

namespace Json

open Text (guarded)

/-! ### Strings -/

theorem not_mem_escape {c : Char} (other : c ≠ '<') : '<' ∉ escape c := by
  fun_cases escape c with
  | case8 _ _ _ _ _ _ _ control =>
    have known : ∀ n < 16, '<' ≠ Text.hexDigit n := by decide
    have high := known (c.toNat / 16) (by omega)
    have low := known (c.toNat % 16) (by omega)
    simp [high,low]
  | case9 => simpa using other.symm
  | _ => simp

theorem eq_slash_of_head?_escape {c : Char} {s : List Char}
    (slash : (escape c ++ s).head? = some '/') : c = '/' := by
  revert slash
  fun_cases escape c <;> simp_all

theorem spells_guarded (s : List Char) : Reader.Spells (guarded (s.flatMap escape)) s := by
  induction s with
  | nil => exact .nil
  | cons c s ih =>
    rw [List.flatMap_cons]
    by_cases opening : c = '<'
    · subst opening
      have opens {t : List Char} (later : Reader.Spells t s) :
          Reader.Spells ('<' :: t) ('<' :: s) :=
        .plain (by decide) (by decide) (by decide) later
      change Reader.Spells (guarded ('<' :: s.flatMap escape)) ('<' :: s)
      unfold guarded
      split
      next both =>
        cases s with
        | nil => simp at both
        | cons d s =>
          obtain rfl := eq_slash_of_head?_escape both.2
          -- The slash is read as itself, without the backslash and with it.
          change Reader.Spells ('/' :: guarded (s.flatMap escape)) ('/' :: s) at ih
          cases ih with
          | plain _ _ _ later => exact opens (later.mark fun _ => rfl)
      next => exact opens ih
    · rw [Text.guarded_append_of_not_mem (not_mem_escape opening)]
      exact ih.escape_append c

theorem guarded_quoted (s : List Char) :
    guarded (quoted s) = '"' :: guarded (s.flatMap escape) ++ ['"'] :=
  Text.guarded_delimited (by decide) (by decide) (by decide) _

/-! ### Values -/

inductive Integral : Json → Prop
  | null : Integral .null
  | bool (value : Bool) : Integral (.bool value)
  | integer (value : Int) (inRange : WordRange value) : Integral (.number (.int value inRange))
  | string (value : String) : Integral (.string value)
  | array {items : List Json} (each : ∀ item ∈ items, Integral item) : Integral (.array items)
  | object {members : List (String × Json)} (each : ∀ member ∈ members, Integral member.2) :
      Integral (.object members)

theorem itemChars_eq_map (items : List Json) : itemChars items = items.map chars := by
  induction items with
  | nil => rfl
  | cons item rest ih => rw [itemChars,ih,List.map_cons]

def memberText (member : String × Json) : List Char :=
  quoted member.1.toList ++ ':' :: member.2.chars

theorem memberChars_eq_map (members : List (String × Json)) :
    memberChars members = members.map memberText := by
  induction members with
  | nil => rfl
  | cons member rest ih => rw [memberChars,ih,List.map_cons,memberText]

theorem guarded_memberText (member : String × Json) : guarded (memberText member) =
    '"' :: guarded (member.1.toList.flatMap escape) ++ '"' :: ':' :: guarded member.2.chars := by
  rw [memberText,Text.guarded_append (by simp),guarded_quoted,Text.guarded_cons_of_ne (by decide),
    List.append_assoc,List.singleton_append]

theorem guarded_integerText (i : Int) : guarded (integerText i) = integerText i := by
  refine Text.guarded_of_not_mem fun member => ?_
  have absent : '<' ∉ Nat.toDigits 10 i.natAbs := fun inDigits =>
    absurd (Reader.isDigit_of_mem_toDigits inDigits) (by decide)
  unfold integerText at member
  split at member <;> simp_all

/-- The guarded text of a value is read as this value. -/
theorem reads_guarded {value : Json} (wellFormed : value.WellFormed) (integral : value.Integral) :
    Reader.Reads (guarded value.chars) value := by
  induction value using Json.induction with
  | null => exact Reader.reads_null
  | bool value =>
    cases value with
    | false => exact Reader.reads_false
    | true => exact Reader.reads_true
  | number value =>
    cases integral with
    | integer value inRange =>
      rw [chars,Number.chars,guarded_integerText]
      exact Reader.reads_integer inRange
  | string value =>
    have reads := Reader.reads_string (spells_guarded value.toList)
    rwa [String.ofList_toList,← guarded_quoted] at reads
  | array items ih =>
    cases integral with
    | array integral =>
      have wellFormed := wellFormed_array_iff.mp wellFormed
      rw [chars,Text.guarded_delimited (by decide) (by decide) (by decide),Text.guarded_joined,
        itemChars_eq_map,List.map_map]
      refine Reader.reads_array (List.forall₂_map_left_iff.mpr (List.forall₂_same.mpr ?_))
      exact fun item member => ih item member (wellFormed item member) (integral item member)
  | object members ih =>
    cases integral with
    | object integral =>
      obtain ⟨ascending,wellFormed⟩ := wellFormed_object_iff.mp wellFormed
      rw [chars,Text.guarded_delimited (by decide) (by decide) (by decide),Text.guarded_joined,
        memberChars_eq_map,List.map_map]
      refine Reader.reads_object ascending ?_
      refine List.forall₂_map_left_iff.mpr (List.forall₂_same.mpr fun member inside => ?_)
      have reads := ih member inside (wellFormed member inside) (integral member inside)
      have whole := Reader.ReadsMember.intro (spells_guarded member.1.toList) reads
      rwa [String.ofList_toList,← guarded_memberText] at whole

end Json

namespace EncoderKind

theorem encode_script (value : Json) :
    script.encode (.data value) = .ok (Utf8.encode (Text.guarded value.chars)) := by
  simp [encode,write,scriptChars,Text.replaceAll_eq_guarded,Except.map]

/-- Data whose numbers are integers is written as a text without closing tags that is read as the
same data, and different data as different texts. -/
theorem script_reads_back {value : Json} (wellFormed : value.WellFormed)
    (integral : value.Integral) :
    ∃ text, script.encode (.data value) = .ok (Utf8.encode text) ∧
      Utf8.decode (Utf8.encode text) = .ok text ∧ ¬['<','/'] <:+: text ∧
      Json.ofText? (String.ofList text) = some value ∧
      ∀ other : Json, other.WellFormed → other.Integral → other ≠ value →
        script.encode (.data other) ≠ script.encode (.data value) := by
  have reads {value : Json} (wellFormed : value.WellFormed) (integral : value.Integral) :=
    Json.ofText?_of_reads (Json.reads_guarded wellFormed integral)
  refine ⟨_,encode_script value,Utf8.decode_encode _,Text.not_infix_guarded _,
    reads wellFormed integral,fun other wellFormed' integral' differs same => differs ?_⟩
  rw [encode_script,encode_script] at same
  have texts := Utf8.encode_injective (Except.ok.inj same)
  have read := reads wellFormed' integral'
  rw [texts,reads wellFormed integral] at read
  exact (Option.some.inj read).symm

/-- A slash after `<` in a key and in a string, among backslashes and quotes. -/
def closingTags : Json :=
  .object [("</",.array [.string "<\\</\"//<",.number (.int (-7) (by decide)),.string "\x01"])]

def closingTagsText : String :=
  "\x7b\"<\\/\":[\"<\\\\<\\/\\\"//<\",-7,\"\\u0001\"]\x7d"

theorem script_reads_back_closingTags :
    closingTags.WellFormed ∧ closingTags.Integral ∧
    script.encode (.data closingTags) = .ok (Utf8.encode closingTagsText.toList) ∧
    Json.ofText? closingTagsText = some closingTags ∧
    script.encode (.data .null) ≠ script.encode (.data closingTags) := by
  have wellFormed : closingTags.WellFormed := by
    simp [closingTags,Json.WellFormed,Json.AllWellFormed,Json.MembersWellFormed,Entries.Ascending]
  have integral : closingTags.Integral :=
    .object <| by
      simp only [List.forall_mem_singleton]
      exact .array <| by
        simp only [List.forall_mem_cons,List.not_mem_nil,false_implies,implies_true,and_true]
        exact ⟨.string _,.integer _ _,.string _⟩
  obtain ⟨text,written,-,-,read,apart⟩ := script_reads_back wellFormed integral
  have same : text = closingTagsText.toList := by
    rw [encode_script] at written
    rw [← Utf8.encode_injective (Except.ok.inj written)]
    decide +kernel
  subst same
  exact ⟨wellFormed,integral,written,by rwa [String.ofList_toList] at read,
    apart .null trivial .null (by simp [closingTags])⟩

end EncoderKind

end ViewTemplates
