import Mathlib.Data.List.Forall2
import ViewTemplates.Json.Reader
import ViewTemplates.Json.Text

/-! Reading JSON text that other text follows. A piece of text is read as its value wherever a value
can stand, so an array or an object is read as the values of its pieces, and a whole text as its
value. -/
namespace ViewTemplates.Json

namespace Reader

theorem skipBlanks_of_visible {c : Char} (visible : isBlank c = false) (s : List Char) :
    skipBlanks (c :: s) = c :: s :=
  List.dropWhile_cons_of_neg (by simp [visible])

/-! ### Strings -/

/-- What stands between quotes for a text. -/
inductive Spells : List Char → List Char → Prop
  | nil : Spells [] []
  | plain {c : Char} {s text : List Char} : c ≠ '"' → c ≠ '\\' → 0x20 ≤ c.toNat →
      Spells s text → Spells (c :: s) (c :: text)
  | escaped (e : List Char) {s text : List Char} {c : Char} :
      (∀ rest, escape (e ++ rest) = some (c,rest)) →
      Spells s text → Spells ('\\' :: e ++ s) (c :: text)

theorem hexValue_hexDigit {n : Nat} (digit : n < 16) : hexValue (Text.hexDigit n) = some n := by
  have known : ∀ n < 16, hexValue (Text.hexDigit n) = some n := by decide
  exact known n digit

theorem escape_unit {s rest : List Char} {n : Nat} (unit : hexUnit s = some (n,rest))
    (below : n < 0xD800) : escape ('u' :: s) = some (Char.ofNat n,rest) := by
  simp only [escape,unit,Option.bind_eq_bind,Option.bind_some,if_pos (Or.inl below)]

theorem Spells.mark {mark c : Char} {s text : List Char}
    (escapes : ∀ rest, escape (mark :: rest) = some (c,rest)) (spells : Spells s text) :
    Spells ('\\' :: mark :: s) (c :: text) := .escaped [mark] escapes spells

theorem Spells.escape_append {s text : List Char} (spells : Spells s text) (c : Char) :
    Spells (Json.escape c ++ s) (c :: text) := by
  fun_cases Json.escape c with
  | case8 _ _ _ _ _ _ _ control =>
    refine .escaped ['u','0','0',Text.hexDigit (c.toNat / 16),Text.hexDigit (c.toNat % 16)]
      (fun rest => ?_) spells
    have high := hexValue_hexDigit (n := c.toNat / 16) (by omega)
    have low := hexValue_hexDigit (n := c.toNat % 16) (by omega)
    have zero : hexValue '0' = some 0 := rfl
    have value : ((0 * 16 + 0) * 16 + c.toNat / 16) * 16 + c.toNat % 16 = c.toNat := by omega
    have unit : hexUnit ('0' :: '0' :: Text.hexDigit (c.toNat / 16) ::
        Text.hexDigit (c.toNat % 16) :: rest) = some (c.toNat,rest) := by
      simp only [hexUnit,zero,high,low,Option.bind_eq_bind,Option.bind_some,value]
    have read := escape_unit unit (by omega)
    rwa [Char.ofNat_toNat] at read
  | case9 notQuote notBackslash _ _ _ _ _ shown =>
    exact .plain notQuote notBackslash (Nat.not_lt.mp shown) spells
  | _ =>
    subst_vars
    exact spells.mark fun _ => rfl

theorem stringBody_of_spells {s text : List Char} (spells : Spells s text) {fuel : Nat}
    (enough : s.length < fuel) (rest : List Char) :
    stringBody fuel (s ++ '"' :: rest) = some (text,rest) := by
  induction spells generalizing fuel with
  | nil =>
    obtain ⟨fuel,rfl⟩ := Nat.exists_eq_succ_of_ne_zero (Nat.ne_zero_of_lt enough)
    rfl
  | @plain c s text notQuote notEscape shown _ ih =>
    obtain ⟨fuel,rfl⟩ := Nat.exists_eq_succ_of_ne_zero (Nat.ne_zero_of_lt enough)
    have later := ih (Nat.lt_of_succ_lt_succ enough)
    simp [stringBody,notQuote,notEscape,Nat.not_lt.mpr shown,later]
  | @escaped e s text c escapes _ ih =>
    obtain ⟨fuel,rfl⟩ := Nat.exists_eq_succ_of_ne_zero (Nat.ne_zero_of_lt enough)
    simp only [List.length_append,List.length_cons] at enough
    have later := ih (by omega : _ < fuel)
    simp [stringBody,escapes,later]

/-! ### Numbers -/

/-- What can follow a value: the end of the text, or what goes on with or ends a list. -/
def EndsValue (rest : List Char) : Prop := ∀ c ∈ rest.head?, c = ',' ∨ c = ']' ∨ c = '}'

theorem fractionPart_of_endsValue {rest : List Char} (ends : EndsValue rest) :
    fractionPart rest = some (none,rest) := by
  cases rest with
  | nil => rfl
  | cons c rest =>
    rcases ends c rfl with rfl | rfl | rfl <;> rfl

theorem exponentPart_of_endsValue {rest : List Char} (ends : EndsValue rest) :
    exponentPart rest = some (none,rest) := by
  cases rest with
  | nil => rfl
  | cons c rest =>
    rcases ends c rfl with rfl | rfl | rfl <;> rfl

theorem digitsValue_toDigits (n : Nat) : digitsValue (Nat.toDigits 10 n) = n := by
  have read := Nat.ofDigitChars_toDigits (b := 10) (n := n) (by decide) (by decide)
  rw [Nat.ofDigitChars_eq_foldl] at read
  simpa only [digitsValue,Nat.mul_comm,show '0'.toNat = 48 from rfl] using read

/-- A number does not begin with a zero, unless that is all of it. -/
theorem toDigits_of_head?_eq_zero {n : Nat} (zero : (Nat.toDigits 10 n).head? = some '0') :
    n = 0 := by
  induction n using Nat.strongRecOn with
  | ind n ih =>
    rw [Nat.toDigits_eq_if (by decide)] at zero
    split at zero
    next => simpa using zero
    next large =>
      rw [List.head?_append_of_ne_nil _ Nat.toDigits_ne_nil] at zero
      have := ih (n / 10) (by omega) zero
      omega

theorem isDigit_of_mem_toDigits {n : Nat} {c : Char} (member : c ∈ Nat.toDigits 10 n) :
    isDigit c = true := by
  have digit := Nat.isDigit_of_mem_toDigits (by decide) (by decide) member
  simpa [isDigit,Char.isDigit,Char.le_def] using digit

theorem exists_toDigits_eq_cons (n : Nat) :
    ∃ d ds, Nat.toDigits 10 n = d :: ds ∧ isDigit d = true := by
  obtain ⟨d,ds,found⟩ := List.exists_cons_of_ne_nil (Nat.toDigits_ne_nil (n := n) (b := 10))
  exact ⟨d,ds,found,isDigit_of_mem_toDigits (n := n) (by simp [found])⟩

/-- The digits of a number are found before what ends it. -/
theorem span_toDigits (n : Nat) {rest : List Char} (ends : EndsValue rest) :
    (Nat.toDigits 10 n ++ rest).takeWhile isDigit = Nat.toDigits 10 n ∧
      (Nat.toDigits 10 n ++ rest).dropWhile isDigit = rest := by
  have digits : ∀ c ∈ Nat.toDigits 10 n, isDigit c = true := fun c => isDigit_of_mem_toDigits
  have after : rest.takeWhile isDigit = [] ∧ rest.dropWhile isDigit = rest := by
    cases rest with
    | nil => exact ⟨rfl,rfl⟩
    | cons c rest => rcases ends c rfl with rfl | rfl | rfl <;> exact ⟨rfl,rfl⟩
  rw [List.takeWhile_append_of_pos digits,List.dropWhile_append_of_pos digits,after.1,after.2,
    List.append_nil]
  exact ⟨rfl,rfl⟩

theorem wellSpelled_toDigits (n : Nat) : ¬((Nat.toDigits 10 n).isEmpty = true ∨
    (Nat.toDigits 10 n).head? = some '0' ∧ (Nat.toDigits 10 n).length ≠ 1) := by
  rintro (empty | ⟨zero,several⟩)
  · exact Nat.toDigits_ne_nil (List.isEmpty_iff.mp empty)
  · rw [toDigits_of_head?_eq_zero zero] at several
    exact several rfl

theorem number_integerText {i : Int} (inRange : WordRange i) {rest : List Char}
    (ends : EndsValue rest) :
    number (integerText i ++ rest) = some (.number (.int i inRange),rest) := by
  obtain ⟨taken,dropped⟩ := span_toDigits i.natAbs ends
  by_cases negative : i < 0
  · have same : -(i.natAbs : Int) = i := by omega
    have other : i ≠ 0 := by omega
    simp only [integerText,if_pos negative,List.cons_append,number,taken,dropped,
      if_neg (wellSpelled_toDigits _),fractionPart_of_endsValue ends,digitsValue_toDigits,same]
    simp [exponentPart_of_endsValue ends,inRange,other]
  · have same : (i.natAbs : Int) = i := by omega
    -- Thereby the text is not taken for one with a sign.
    have unsigned (t : List Char) : Nat.toDigits 10 i.natAbs ++ rest ≠ '-' :: t := by
      intro begins
      obtain ⟨d,ds,found,digit⟩ := exists_toDigits_eq_cons i.natAbs
      rw [found] at begins
      rw [(List.cons.inj begins).1] at digit
      contradiction
    simp only [integerText,if_neg negative,number,taken,dropped,
      if_neg (wellSpelled_toDigits _),fractionPart_of_endsValue ends,digitsValue_toDigits,same]
    simp [exponentPart_of_endsValue ends,inRange]

/-! ### Values -/

/-- A text that is read as a value wherever a value can stand. -/
structure Reads (s : List Char) (x : Json) : Prop where
  begins : ∃ c rest, s = c :: rest ∧ isBlank c = false ∧ c ≠ ']'
  read : ∀ {fuel : Nat} {rest : List Char}, s.length < fuel → EndsValue rest →
    value fuel (s ++ rest) = some (x,rest)

theorem Reads.of_read {s : List Char} {x : Json}
    (begins : ∃ c rest, s = c :: rest ∧ isBlank c = false ∧ c ≠ ']')
    (read : ∀ fuel rest, s.length ≤ fuel → EndsValue rest →
      value (fuel + 1) (s ++ rest) = some (x,rest)) : Reads s x where
  begins := begins
  read := by
    intro fuel rest enough ends
    obtain ⟨fuel,rfl⟩ := Nat.exists_eq_succ_of_ne_zero (Nat.ne_zero_of_lt enough)
    exact read fuel rest (Nat.le_of_lt_succ enough) ends

theorem reads_null : Reads ['n','u','l','l'] .null :=
  .of_read ⟨_,_,rfl,by decide,by decide⟩ fun _ _ _ _ => rfl

theorem reads_true : Reads ['t','r','u','e'] (.bool true) :=
  .of_read ⟨_,_,rfl,by decide,by decide⟩ fun _ _ _ _ => rfl

theorem reads_false : Reads ['f','a','l','s','e'] (.bool false) :=
  .of_read ⟨_,_,rfl,by decide,by decide⟩ fun _ _ _ _ => rfl

theorem value_quote (fuel : Nat) (s : List Char) :
    value (fuel + 1) ('"' :: s) =
      (stringBody (s.length + 1) s).bind fun p => some (.string (String.ofList p.1),p.2) := rfl

theorem reads_string {s text : List Char} (spells : Spells s text) :
    Reads ('"' :: s ++ ['"']) (.string (String.ofList text)) := by
  refine .of_read ⟨_,_,rfl,by decide,by decide⟩ fun fuel rest _ _ => ?_
  have enough : s.length < (s ++ '"' :: rest).length + 1 := by
    simp only [List.length_append]
    omega
  rw [List.append_assoc,List.singleton_append,List.cons_append,value_quote,
    stringBody_of_spells spells enough rest]
  rfl

def BeginsInteger (c : Char) : Prop := isDigit c = true ∨ c = '-'

theorem BeginsInteger.ne {c d : Char} (begins : BeginsInteger c)
    (special : d ∈ [' ','\t','\n','\r','"','[',']','{','n','t','f']) : c ≠ d := by
  have known : ∀ d ∈ [' ','\t','\n','\r','"','[',']','{','n','t','f'],
      isDigit d = false ∧ d ≠ '-' := by simp [isDigit]
  obtain ⟨notDigit,notMinus⟩ := known d special
  rintro rfl
  rcases begins with digit | minus
  · exact Bool.false_ne_true (notDigit.symm.trans digit)
  · exact notMinus minus

theorem BeginsInteger.isBlank {c : Char} (begins : BeginsInteger c) : isBlank c = false := by
  simp [Reader.isBlank,begins.ne (d := ' '),begins.ne (d := '\t'),begins.ne (d := '\n'),
    begins.ne (d := '\r')]

theorem exists_integerText_eq_cons (i : Int) :
    ∃ c rest, integerText i = c :: rest ∧ BeginsInteger c := by
  unfold integerText
  split
  next => exact ⟨_,_,rfl,.inr rfl⟩
  next =>
    obtain ⟨d,ds,found,digit⟩ := exists_toDigits_eq_cons i.natAbs
    exact ⟨d,ds,found,.inl digit⟩

theorem value_of_beginsInteger {c : Char} (begins : BeginsInteger c) (fuel : Nat) (s : List Char) :
    value (fuel + 1) (c :: s) = number (c :: s) := by
  rw [value,skipBlanks_of_visible begins.isBlank]
  simp [begins.ne (d := '"'),begins.ne (d := '['),begins.ne (d := '{'),begins.ne (d := 'n'),
    begins.ne (d := 't'),begins.ne (d := 'f')]

theorem reads_integer {i : Int} (inRange : WordRange i) :
    Reads (integerText i) (.number (.int i inRange)) := by
  obtain ⟨c,t,text,begins⟩ := exists_integerText_eq_cons i
  refine .of_read ⟨c,t,text,begins.isBlank,begins.ne (by decide)⟩
    fun fuel rest _ ends => ?_
  have read := number_integerText inRange ends
  rw [text,List.cons_append] at read ⊢
  rw [value_of_beginsInteger begins,read]

theorem value_bracket {c : Char} (visible : isBlank c = false) (filled : c ≠ ']') (fuel : Nat)
    (s : List Char) : value (fuel + 1) ('[' :: c :: s) =
      (items fuel (c :: s)).bind fun p => some (.array p.1,p.2) := by
  have opening : isBlank '[' = false := rfl
  simp only [value,skipBlanks_of_visible opening,skipBlanks_of_visible visible]
  rw [if_neg (by decide),if_pos trivial]
  split
  next empty => exact absurd (List.cons.inj empty).1 filled
  next => rfl

theorem value_brace (fuel : Nat) (s : List Char) : value (fuel + 1) ('{' :: '"' :: s) =
    (members fuel ('"' :: s)).bind fun p => some (.ofMembers p.1,p.2) := rfl

theorem items_last {fuel : Nat} {s rest : List Char} {x : Json}
    (read : value fuel s = some (x,']' :: rest)) : items (fuel + 1) s = some ([x],rest) := by
  simp only [items,read]
  rfl

theorem items_more {fuel : Nat} {s rest : List Char} {x : Json}
    (read : value fuel s = some (x,',' :: rest)) :
    items (fuel + 1) s = (items fuel rest).bind fun p => some (x :: p.1,p.2) := by
  simp only [items,read]
  rfl

theorem endsValue_cons {c : Char} (ends : c = ',' ∨ c = ']' ∨ c = '}') (s : List Char) :
    EndsValue (c :: s) := by
  rintro _ ⟨⟩
  exact ends

theorem items_joined {texts : List (List Char)} {values : List Json}
    (each : List.Forall₂ Reads texts values) (filled : texts ≠ []) {fuel : Nat}
    (enough : (Text.joined [','] texts).length + 1 < fuel) (rest : List Char) :
    items fuel (Text.joined [','] texts ++ ']' :: rest) = some (values,rest) := by
  induction each generalizing fuel with
  | nil => exact absurd rfl filled
  | @cons text x texts values first later ih =>
    obtain ⟨fuel,rfl⟩ := Nat.exists_eq_succ_of_ne_zero (Nat.ne_zero_of_lt enough)
    cases later with
    | nil =>
      refine items_last (first.read ?_ (endsValue_cons (.inr (.inl rfl)) rest))
      simp only [Text.joined] at enough
      omega
    | @cons second y texts values _ _ =>
      simp only [Text.joined,List.length_append,List.length_cons,List.length_nil] at enough
      have more := ih (List.cons_ne_nil _ _) (by omega : _ < fuel)
      have read := first.read (by omega : _ < fuel)
        (endsValue_cons (.inl rfl) (Text.joined [','] (second :: texts) ++ ']' :: rest))
      rw [Text.joined,List.append_assoc,List.append_assoc,List.singleton_append,items_more read,
        more]
      rfl

inductive ReadsMember : List Char → String × Json → Prop
  | intro {s key t : List Char} {x : Json} : Spells s key → Reads t x →
      ReadsMember ('"' :: s ++ '"' :: ':' :: t) (String.ofList key,x)

theorem members_quote (fuel : Nat) (s : List Char) :
    members (fuel + 1) ('"' :: s) = (stringBody (s.length + 1) s).bind fun p =>
      match skipBlanks p.2 with
      | ':' :: rest => (value fuel rest).bind fun q =>
        match skipBlanks q.2 with
        | ',' :: rest => (members fuel rest).bind fun r => some ((String.ofList p.1,q.1) :: r.1,r.2)
        | '}' :: rest => some ([(String.ofList p.1,q.1)],rest)
        | _ => none
      | _ => none := rfl

/-- What follows a member decides whether there are more. -/
theorem members_of_reads {s : List Char} {member : String × Json} (reads : ReadsMember s member)
    {fuel : Nat} (enough : s.length ≤ fuel) {rest : List Char} (ends : EndsValue rest) :
    members (fuel + 1) (s ++ rest) = match skipBlanks rest with
      | ',' :: rest => (members fuel rest).bind fun r => some (member :: r.1,r.2)
      | '}' :: rest => some ([member],rest)
      | _ => none := by
  obtain @⟨s,key,t,x,spells,reads⟩ := reads
  simp only [List.length_append,List.length_cons] at enough
  have body : stringBody ((s ++ '"' :: (':' :: (t ++ rest))).length + 1)
      (s ++ '"' :: (':' :: (t ++ rest))) = some (key,':' :: (t ++ rest)) :=
    stringBody_of_spells spells (by simp only [List.length_append]; omega) _
  have colon : skipBlanks (':' :: (t ++ rest)) = ':' :: (t ++ rest) :=
    skipBlanks_of_visible (by decide) _
  have read : value fuel (t ++ rest) = some (x,rest) := reads.read (by omega) ends
  rw [List.append_assoc,List.cons_append,List.cons_append,List.cons_append,members_quote,body]
  simp only [Option.bind_some,colon,read]

theorem members_joined {texts : List (List Char)} {entries : List (String × Json)}
    (each : List.Forall₂ ReadsMember texts entries) (filled : texts ≠ []) {fuel : Nat}
    (enough : (Text.joined [','] texts).length < fuel) (rest : List Char) :
    members fuel (Text.joined [','] texts ++ '}' :: rest) = some (entries,rest) := by
  induction each generalizing fuel with
  | nil => exact absurd rfl filled
  | @cons text member texts entries first later ih =>
    obtain ⟨fuel,rfl⟩ := Nat.exists_eq_succ_of_ne_zero (Nat.ne_zero_of_lt enough)
    cases later with
    | nil =>
      rw [Text.joined] at enough ⊢
      rw [members_of_reads first (by omega) (endsValue_cons (.inr (.inr rfl)) rest)]
      rfl
    | @cons second next texts entries _ _ =>
      simp only [Text.joined,List.length_append,List.length_cons,List.length_nil] at enough
      have more : members fuel (Text.joined [','] (second :: texts) ++ '}' :: rest) =
        some (next :: entries,rest) := ih (List.cons_ne_nil _ _) (by omega)
      rw [Text.joined,List.append_assoc,List.append_assoc,List.singleton_append,
        members_of_reads first (by omega) (endsValue_cons (.inl rfl) _)]
      change (members fuel (Text.joined [','] (second :: texts) ++ '}' :: rest)).bind _ = _
      rw [more]
      rfl

theorem reads_array {texts : List (List Char)} {values : List Json}
    (each : List.Forall₂ Reads texts values) :
    Reads ('[' :: Text.joined [','] texts ++ [']']) (.array values) := by
  refine .of_read ⟨_,_,rfl,by decide,by decide⟩ fun fuel rest enough _ => ?_
  simp only [List.length_append,List.length_cons,List.length_nil] at enough
  rw [List.append_assoc,List.singleton_append,List.cons_append]
  rcases texts with _ | ⟨text,texts⟩
  · obtain rfl := List.forall₂_nil_left_iff.mp each
    rfl
  · obtain ⟨after,joined⟩ := Text.exists_joined_cons [','] text texts
    obtain ⟨x,values,first,-,rfl⟩ := List.forall₂_cons_left_iff.mp each
    obtain ⟨c,t,rfl,visible,notClosing⟩ := first.begins
    have read := items_joined each (List.cons_ne_nil _ _) (by omega : _ < fuel) rest
    rw [joined,List.cons_append,List.cons_append] at read ⊢
    rw [value_bracket visible notClosing,read]
    rfl

/-- Members in ascending order of their keys are read as they stand. -/
theorem reads_object {texts : List (List Char)} {entries : List (String × Json)}
    (ascending : Entries.Ascending entries) (each : List.Forall₂ ReadsMember texts entries) :
    Reads ('{' :: Text.joined [','] texts ++ ['}']) (.object entries) := by
  refine .of_read ⟨_,_,rfl,by decide,by decide⟩ fun fuel rest enough _ => ?_
  simp only [List.length_append,List.length_cons,List.length_nil] at enough
  rw [List.append_assoc,List.singleton_append,List.cons_append]
  rcases texts with _ | ⟨text,texts⟩
  · obtain rfl := List.forall₂_nil_left_iff.mp each
    rfl
  · obtain ⟨after,joined⟩ := Text.exists_joined_cons [','] text texts
    obtain ⟨member,entries,first,-,rfl⟩ := List.forall₂_cons_left_iff.mp each
    have read := members_joined each (List.cons_ne_nil _ _) (by omega : _ < fuel) rest
    obtain @⟨s,key,t,x,spells,reads⟩ := first
    rw [joined] at read ⊢
    simp only [List.cons_append] at read ⊢
    rw [value_brace,read,Option.bind_some,ofMembers,Entries.ofList_of_ascending ascending]

end Reader

/-- A whole text that is read as a value. -/
theorem ofText?_of_reads {s : List Char} {x : Json} (reads : Reader.Reads s x) :
    ofText? (String.ofList s) = some x := by
  have ends : Reader.EndsValue [] := nofun
  have read := reads.read (Nat.lt_succ_self s.length) ends
  rw [List.append_nil] at read
  simp only [ofText?,String.toList_ofList,read]
  rfl

end ViewTemplates.Json
