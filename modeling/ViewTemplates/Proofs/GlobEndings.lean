import ViewTemplates.Proofs.GlobMatching
import ViewTemplates.Text.Split

/-! Globs that end in a dot and one of several words. Whatever stands before the ending, it is read
as it stands there, and so every text that matches ends in the dot and one of the words. -/
namespace ViewTemplates.Glob

/-! ### A dot and one of several words -/

/-- A dot and one word, or alternatives. -/
def endingText : List (List Char) → List Char
  | [word] => '.' :: word
  | words => '.' :: '{' :: (Text.joined [','] words ++ ['}'])

def endingTokens : List (List Char) → List Token
  | [word] => .literal '.' :: word.map .literal
  | words => [.literal '.',.alternatives (words.map (·.map .literal))]

theorem ending_cases (words : List (List Char)) :
    (∃ word, words = [word]) ∨ (∀ word, words ≠ [word]) ∧
      endingText words = '.' :: '{' :: (Text.joined [','] words ++ ['}']) ∧
      endingTokens words = [.literal '.',.alternatives (words.map (·.map .literal))] := by
  by_cases single : ∃ word, words = [word]
  · exact .inl single
  · have several := not_exists.mp single
    exact .inr ⟨several,endingText.eq_2 words several,endingTokens.eq_2 words several⟩

theorem exists_endingText (words : List (List Char)) :
    ∃ ending, endingText words = '.' :: ending := by
  rcases ending_cases words with ⟨word,rfl⟩ | ⟨-,text,-⟩
  · exact ⟨word,rfl⟩
  · exact ⟨_,text⟩

theorem exists_endingTokens (words : List (List Char)) :
    ∃ rest, endingTokens words = .literal '.' :: rest := by
  rcases ending_cases words with ⟨word,rfl⟩ | ⟨-,-,tokens⟩
  · exact ⟨_,rfl⟩
  · exact ⟨_,tokens⟩

theorem eq_singleton_of_nodup {α : Type} {l : List α} {a : α} (nonempty : l ≠ [])
    (distinct : l.Nodup) (same : ∀ b ∈ l, b = a) : l = [a] := by
  have repeated := List.eq_replicate_of_mem same
  rw [repeated,List.nodup_replicate] at distinct
  have := List.length_pos_of_ne_nil nonempty
  rw [repeated,show l.length = 1 by omega]
  rfl

theorem allAccept_alternatives_iff {words : List (List Char)} (nonempty : ∃ word ∈ words, word ≠ [])
    {s : Bytes} :
    allAccept List.isEmpty [.alternatives (words.map (·.map .literal))] s = true ↔
      ∃ word ∈ words, word ≠ [] ∧ s = Utf8.encode word := by
  have counts : allVacuous (words.map (·.map .literal)) = false := by
    obtain ⟨word,member,nonempty⟩ := nonempty
    rw [← Bool.not_eq_true,allVacuous_iff]
    intro vacuous
    have empty := vacuous _ (List.mem_map_of_mem member)
    rw [isVacuousBranch_literals,List.isEmpty_iff] at empty
    exact nonempty empty
  change (Token.alternatives _).accepts List.isEmpty s = true ↔ _
  rw [Token.accepts,counts,if_neg Bool.false_ne_true,someAccepts_iff]
  constructor
  · rintro ⟨_,mapped,counted,accepted⟩
    obtain ⟨word,member,rfl⟩ := List.mem_map.mp mapped
    obtain ⟨rest,rfl,ended⟩ := allAccept_literals_iff.mp accepted
    obtain rfl := List.isEmpty_iff.mp ended
    refine ⟨word,member,fun empty => ?_,List.append_nil _⟩
    simp [empty,isVacuousBranch] at counted
  · rintro ⟨word,member,nonempty,rfl⟩
    refine ⟨_,List.mem_map_of_mem member,?_,allAccept_literals_iff.mpr ⟨[],by simp,rfl⟩⟩
    rw [isVacuousBranch_literals]
    simpa using nonempty

/-- Of several words the empty one never matches. -/
theorem allAccept_endingTokens_iff {words : List (List Char)} (nonempty : words ≠ [])
    (distinct : words.Nodup) {s : Bytes} :
    allAccept List.isEmpty (endingTokens words) s = true ↔
      ∃ word ∈ words, (word = [] → words = [[]]) ∧ s = Utf8.encode ('.' :: word) := by
  rcases ending_cases words with ⟨word,rfl⟩ | ⟨several,-,tokens⟩
  · change allAccept List.isEmpty (('.' :: word).map .literal) s = true ↔ _
    rw [allAccept_literals_iff]
    simp
  · have counted : ∃ word ∈ words, word ≠ [] := by
      by_contra empty
      push Not at empty
      exact several [] (eq_singleton_of_nodup nonempty distinct empty)
    rw [tokens]
    change afterLiteral (allAccept List.isEmpty [.alternatives _]) (Utf8.encode ['.']) s = true ↔ _
    rw [afterLiteral_iff]
    simp only [allAccept_alternatives_iff counted]
    constructor
    · rintro ⟨_,rfl,word,member,nonempty,rfl⟩
      exact ⟨word,member,fun empty => absurd empty nonempty,rfl⟩
    · rintro ⟨word,member,alone,rfl⟩
      exact ⟨_,rfl,word,member,fun empty => several [] (alone empty),rfl⟩

/-! ### Reading the ending -/

/-- Characters that stand for themselves in a pattern wherever they are. -/
def IsPlain (c : Char) : Prop := c ∉ ['?','*','[',']','{','}',',','\\']

instance (c : Char) : Decidable (IsPlain c) := inferInstanceAs (Decidable (_ ∉ _))

section Reading

variable {fuel : Nat} {outer : List Group} {g : Group} {previous : Option Char} {s rest : List Char}
  {tokens : List Token}

/-- A pattern that is read is read alike with more fuel. -/
theorem parseFrom_add (more : Nat) (parsed : parseFrom fuel outer g previous s = some tokens) :
    parseFrom (fuel + more) outer g previous s = some tokens := by
  fun_induction parseFrom fuel outer g previous s with
  | case1 | case3 | case9 | case13 => contradiction
  | case7 fuel outer g previous rest ih =>
    obtain ⟨⟨token,after⟩,read,parsed⟩ := Option.bind_eq_some_iff.mp parsed
    simp [parseFrom,Nat.succ_add,read,ih token after parsed]
  | case5 fuel outer g previous rest read after stars last ih =>
    simpa [parseFrom,Nat.succ_add,stars] using ih parsed
  | case2 | case4 | case6 | case8 | case10 | case11 | case12 | case14 | case15 =>
    simp_all [parseFrom,Nat.succ_add]

theorem parseFrom_plain {c : Char} (plain : IsPlain c) :
    parseFrom (fuel + 1) outer g previous (c :: rest) =
      parseFrom fuel outer (g.push (.literal c)) (some c) rest := by
  simp only [IsPlain,List.mem_cons,List.not_mem_nil,or_false,not_or] at plain
  rw [parseFrom.eq_def]
  split <;> simp_all

theorem parseFrom_word (fuel : Nat) (outer : List Group) (g : Group) (previous : Option Char)
    {word : List Char} (plain : ∀ c ∈ word, IsPlain c) (rest : List Char) :
    parseFrom (fuel + word.length) outer g previous (word ++ rest) =
      parseFrom fuel outer { g with tokens := (word.map .literal).reverse ++ g.tokens }
        (word.getLast?.or previous) rest := by
  induction word generalizing g previous with
  | nil => rfl
  | cons c word ih =>
    obtain ⟨here,later⟩ := List.forall_mem_cons.mp plain
    rw [List.length_cons,← Nat.add_assoc,List.cons_append,parseFrom_plain here,ih _ _ later]
    simp [Group.push,List.getLast?_cons,Option.or_some]

theorem parseFrom_words (fuel : Nat) (outer : List Group) (around : Group)
    (branches : List (List Token)) (previous : Option Char) {words : List (List Char)}
    (nonempty : words ≠ []) (plain : ∀ word ∈ words, ∀ c ∈ word, IsPlain c) (rest : List Char) :
    parseFrom (fuel + 1 + (Text.joined [','] words).length) (around :: outer) ⟨branches,[]⟩ previous
        (Text.joined [','] words ++ '}' :: rest) =
      parseFrom fuel outer
        (around.push (.alternatives (branches.reverse ++ words.map (·.map .literal)))) (some '}')
        rest := by
  fun_induction Text.joined [','] words generalizing branches previous with
  | case1 => contradiction
  | case2 word =>
    rw [parseFrom_word _ _ _ _ (plain word List.mem_cons_self)]
    simp [parseFrom,Group.toToken,Group.nextBranch]
  | case3 word next others ih =>
    obtain ⟨here,later⟩ := List.forall_mem_cons.mp plain
    let after := Text.joined [','] (next :: others)
    have size : fuel + 1 + (word ++ [','] ++ after).length =
        fuel + 1 + after.length + 1 + word.length := by
      simp only [List.length_append,List.length_cons,List.length_nil]
      omega
    rw [size,List.append_assoc,List.append_assoc,parseFrom_word _ _ _ _ here]
    have branch := ih (word.map .literal :: branches) (some ',') (by simp) later
    simpa [parseFrom,Group.nextBranch] using branch

/-- An ending is read as its pieces, but not inside a group. -/
theorem parseFrom_endingText (fuel : Nat) (outer : List Group) (g : Group) (previous : Option Char)
    {words : List (List Char)} (nonempty : words ≠ [])
    (plain : ∀ word ∈ words, ∀ c ∈ word, IsPlain c) :
    parseFrom (fuel + (endingText words).length + 1) outer g previous (endingText words) =
      if outer.isEmpty then some (g.tokens.reverse ++ endingTokens words) else none := by
  have dot : IsPlain '.' := by decide
  rcases ending_cases words with ⟨word,rfl⟩ | ⟨-,text,tokens⟩
  · have read := parseFrom_word (fuel + 1) outer (g.push (.literal '.')) (some '.')
      (plain word List.mem_cons_self) []
    have size : fuel + ('.' :: word).length + 1 = fuel + 1 + word.length + 1 := by
      rw [List.length_cons]
      omega
    rw [List.append_nil] at read
    rw [endingText,size,parseFrom_plain dot,read]
    simp [parseFrom,Group.push,endingTokens]
  · have group := parseFrom_words (fuel + 1) outer (g.push (.literal '.')) [] (some '{') nonempty
      plain []
    have size : fuel + (endingText words).length + 1 =
        fuel + 1 + 1 + (Text.joined [','] words).length + 1 + 1 := by
      simp only [text,List.length_append,List.length_cons,List.length_nil]
      omega
    rw [size,text,parseFrom_plain dot,parseFrom,Group.start,group]
    simp [parseFrom,Group.push,tokens]

/-- A class ends before an ending that no class can be closed in. -/
theorem exists_of_read {ending : List Char} (unclosed : ']' ∉ ending) {first : Bool}
    {state : ClassState} {ranges : List (Char × Char)} (front : List Char)
    (read : ClassState.read first state (front ++ ending) = some (ranges,rest)) :
    ∃ left, rest = left ++ ending := by
  induction front generalizing first state with
  | nil =>
    exfalso
    rw [List.nil_append] at read
    induction ending generalizing first state with
    | nil => contradiction
    | cons c ending ih =>
      obtain ⟨differs,later⟩ := not_or.mp (List.mem_cons.not.mp unclosed)
      rw [ClassState.read,if_neg (by simp [Ne.symm differs])] at read
      split at read
      · exact ih later read
      · obtain ⟨state,_,read⟩ := Option.bind_eq_some_iff.mp read
        exact ih later read
  | cons c front ih =>
    rw [List.cons_append,ClassState.read] at read
    split at read
    · simp only [Option.some.injEq,Prod.mk.injEq] at read
      exact ⟨front,read.2.symm⟩
    · split at read
      · exact ih read
      · obtain ⟨state,_,read⟩ := Option.bind_eq_some_iff.mp read
        exact ih read

theorem exists_of_readClass {ending : List Char} (unclosed : ']' ∉ '.' :: ending) {token : Token}
    {front : List Char} (read : readClass (front ++ '.' :: ending) = some (token,rest)) :
    ∃ left, rest = left ++ '.' :: ending := by
  simp only [readClass] at read
  obtain ⟨⟨ranges,after⟩,inside,read⟩ := Option.bind_eq_some_iff.mp read
  obtain ⟨bytes,_,read⟩ := Option.bind_eq_some_iff.mp read
  obtain ⟨-,rfl⟩ := Prod.mk.inj (Option.some.inj read)
  rcases front with _ | ⟨c,front⟩
  · exact exists_of_read unclosed [] inside
  · split at inside
    next rest same =>
      obtain ⟨-,rfl⟩ := List.cons.inj same
      exact exists_of_read unclosed front inside
    next rest same =>
      obtain ⟨-,rfl⟩ := List.cons.inj same
      exact exists_of_read unclosed front inside
    next => exact exists_of_read unclosed (c :: front) inside

theorem exists_of_readStars (inGroup : Bool) (previous : Option Char) (tokens : List Token)
    (front ending : List Char) :
    ∃ left, (readStars inGroup previous tokens (front ++ '.' :: ending)).2 =
      left ++ '.' :: ending := by
  rcases front with _ | ⟨c,front⟩
  · refine ⟨[],?_⟩
    cases tokens with
    | nil => rfl
    | cons token before =>
      simp only [readStars,List.nil_append]
      split
      · rfl
      · simp
  · by_cases wide : c = '/'
    · subst wide
      cases tokens with
      | nil => exact ⟨front,rfl⟩
      | cons token before =>
        simp only [readStars,List.cons_append]
        split
        · exact ⟨'/' :: front,rfl⟩
        · exact ⟨front,rfl⟩
    · refine ⟨c :: front,?_⟩
      cases tokens <;> simp only [readStars,List.cons_append] <;> repeat' split <;> simp_all

theorem not_mem_endingText {words : List (List Char)}
    (plain : ∀ word ∈ words, ∀ c ∈ word, IsPlain c) : ']' ∉ endingText words := by
  have inWord : ¬∃ word ∈ words, ']' ∈ word := fun ⟨word,member,inWord⟩ =>
    plain word member ']' inWord (by simp)
  have inJoined : ']' ∉ Text.joined [','] words := fun member =>
    (Text.mem_of_mem_joined member).elim (by simp) inWord
  rw [endingText.eq_def]
  split
  · simpa using inWord
  · simpa using inJoined

/-- What reading goes on with after a character: with the rest of the pattern, or with what two
stars, a class or an escape leave of it. -/
theorem parseFrom_cons {c : Char}
    (parsed : parseFrom (fuel + 1) outer g previous (c :: rest) = some tokens) :
    (∃ around inner last, parseFrom fuel around inner last rest = some tokens) ∨
    (∃ inner last after, rest = '*' :: after ∧
      parseFrom fuel outer inner last (readStars (!outer.isEmpty) previous g.tokens after).2 =
        some tokens) ∨
    (∃ inner last token left, readClass rest = some (token,left) ∧
      parseFrom fuel outer inner last left = some tokens) ∨
    ∃ d left, rest = d :: left ∧
      parseFrom fuel outer (g.push (.literal d)) (some d) left = some tokens := by
  rw [parseFrom.eq_def] at parsed
  simp only at parsed
  split at parsed
  next => contradiction
  next same =>
    obtain ⟨-,rfl⟩ := List.cons.inj same
    exact .inl ⟨_,_,_,parsed⟩
  next same =>
    obtain ⟨-,rfl⟩ := List.cons.inj same
    exact .inr (.inl ⟨_,_,_,rfl,parsed⟩)
  next same =>
    obtain ⟨-,rfl⟩ := List.cons.inj same
    exact .inl ⟨_,_,_,parsed⟩
  next same =>
    obtain ⟨-,rfl⟩ := List.cons.inj same
    obtain ⟨⟨token,left⟩,read,parsed⟩ := Option.bind_eq_some_iff.mp parsed
    exact .inr (.inr (.inl ⟨_,_,token,left,read,parsed⟩))
  next same =>
    obtain ⟨-,rfl⟩ := List.cons.inj same
    exact .inl ⟨_,_,_,parsed⟩
  next same =>
    obtain ⟨-,rfl⟩ := List.cons.inj same
    split at parsed
    · contradiction
    · exact .inl ⟨_,_,_,parsed⟩
  next same =>
    obtain ⟨-,rfl⟩ := List.cons.inj same
    split at parsed <;> exact .inl ⟨_,_,_,parsed⟩
  next same =>
    obtain ⟨-,rfl⟩ := List.cons.inj same
    split at parsed
    · contradiction
    · exact .inr (.inr (.inr ⟨_,_,rfl,parsed⟩))
  next same =>
    obtain ⟨-,rfl⟩ := List.cons.inj same
    exact .inl ⟨_,_,_,parsed⟩

/-- Whatever a pattern is, an ending that is read after it is read as its pieces: no class, group or
escape that the pattern leaves open takes it in. -/
theorem exists_of_parseFrom {words : List (List Char)} (nonempty : words ≠ [])
    (plain : ∀ word ∈ words, ∀ c ∈ word, IsPlain c) {front : List Char}
    (parsed : parseFrom fuel outer g previous (front ++ endingText words) = some tokens) :
    ∃ before, tokens = before ++ endingTokens words := by
  have atEnd (fuel : Nat) (outer : List Group) (g : Group) (previous : Option Char)
      (parsed : parseFrom fuel outer g previous (endingText words) = some tokens) :
      ∃ before, tokens = before ++ endingTokens words := by
    have extended := parseFrom_add ((endingText words).length + 1) parsed
    rw [← Nat.add_assoc,parseFrom_endingText _ _ _ _ nonempty plain] at extended
    split at extended
    · exact ⟨_,(Option.some.inj extended).symm⟩
    · contradiction
  have unclosed := not_mem_endingText plain
  obtain ⟨ending,text⟩ := exists_endingText words
  rw [text] at parsed atEnd unclosed
  induction fuel generalizing outer g previous front with
  | zero => contradiction
  | succ fuel ih =>
    rcases front with _ | ⟨c,front⟩
    · exact atEnd _ _ _ _ parsed
    · rw [List.cons_append] at parsed
      rcases parseFrom_cons parsed with ⟨_,_,_,parsed⟩ | ⟨_,_,after,same,parsed⟩ |
        ⟨_,_,token,left,read,parsed⟩ | ⟨d,left,same,parsed⟩
      · exact ih parsed
      · -- Two stars, and a slash after them if they stand for directories.
        rcases front with _ | ⟨d,front⟩
        · simp at same
        · rw [List.cons_append] at same
          obtain ⟨-,rfl⟩ := List.cons.inj same
          obtain ⟨left,stars⟩ := exists_of_readStars (!outer.isEmpty) previous g.tokens front ending
          rw [stars] at parsed
          exact ih parsed
      · obtain ⟨left,rfl⟩ := exists_of_readClass unclosed read
        exact ih parsed
      · rcases front with _ | ⟨e,front⟩
        · -- The dot is escaped, and stands for itself as it does without that.
          obtain ⟨rfl,rfl⟩ := List.cons.inj same
          exact atEnd _ _ _ previous ((parseFrom_plain (by decide)).trans parsed)
        · rw [List.cons_append] at same
          obtain ⟨-,rfl⟩ := List.cons.inj same
          exact ih parsed

end Reading

/-! ### Globs that end in a dot and one of several words -/

/-- The text is `front`, a dot and one of the words. Of several words the empty one counts for
nothing. -/
def HasEnding (words : List (List Char)) (front text : List Char) : Prop :=
  ∃ word ∈ words, (word = [] → words = [[]]) ∧ text = front ++ '.' :: word

section Matching

variable {words : List (List Char)} {text : List Char} {pattern : String}

/-- Such a glob is not two stars alone. -/
theorem isMatch_append_endingTokens (before : List Token) (words : List (List Char))
    (text : List Char) : isMatch (before ++ endingTokens words) text =
      allAccept (allAccept List.isEmpty (endingTokens words)) before (Utf8.encode text) := by
  obtain ⟨rest,same⟩ := exists_endingTokens words
  rw [isMatch]
  · rw [allAccept_append]
  · intro alone
    rw [same] at alone
    rcases before with _ | ⟨first,_ | ⟨second,before⟩⟩ <;> simp at alone

/-- Whatever stands before the ending, only texts with that ending match. -/
theorem exists_hasEnding_of_isMatch (nonempty : words ≠ []) (distinct : words.Nodup)
    (before : List Token) (matched : isMatch (before ++ endingTokens words) text = true) :
    ∃ front, HasEnding words front text := by
  rw [isMatch_append_endingTokens] at matched
  obtain ⟨rest,⟨bytes,same⟩,ended⟩ := exists_suffix_of_allAccept before matched
  obtain ⟨word,member,alone,rfl⟩ := (allAccept_endingTokens_iff nonempty distinct).mp ended
  obtain ⟨front,rfl,-⟩ := Utf8.exists_of_encode_eq_append (by decide) same.symm
  exact ⟨front,word,member,alone,rfl⟩

theorem isMatch_star_iff (nonempty : words ≠ []) (distinct : words.Nodup) :
    isMatch (.star :: endingTokens words) text = true ↔
      ∃ front, '/' ∉ front ∧ HasEnding words front text := by
  change isMatch ([.star] ++ endingTokens words) text = true ↔ _
  rw [isMatch_append_endingTokens]
  change afterNoSlash _ _ = true ↔ _
  simp only [afterNoSlash_iff,allAccept,allAccept_endingTokens_iff nonempty distinct]
  have inCode {front : List Char} : slash ∈ Utf8.encode front ↔ '/' ∈ front :=
    Utf8.mem_encode_iff (a := '/') (by decide)
  constructor
  · rintro ⟨bytes,_,same,clean,word,member,alone,rfl⟩
    obtain ⟨front,rfl,rfl⟩ := Utf8.exists_of_encode_eq_append (by decide) same
    exact ⟨front,inCode.not.mp clean,word,member,alone,rfl⟩
  · rintro ⟨front,clean,word,member,alone,rfl⟩
    exact ⟨_,_,Utf8.encode_append _ _,inCode.not.mpr clean,word,member,alone,rfl⟩

theorem isMatch_leading_star_iff (nonempty : words ≠ []) (distinct : words.Nodup) :
    isMatch (.leading :: .star :: endingTokens words) text = true ↔
      ∃ front, HasEnding words front text := by
  constructor
  · exact exists_hasEnding_of_isMatch nonempty distinct [.leading,.star]
  · rintro ⟨front,ending⟩
    have single {front text : List Char} (clean : '/' ∉ front)
        (ending : HasEnding words front text) :
        allAccept (allAccept List.isEmpty (endingTokens words)) [.star] (Utf8.encode text) = true :=
      (isMatch_append_endingTokens [.star] words text).symm.trans
        ((isMatch_star_iff nonempty distinct).mpr ⟨front,clean,ending⟩)
    change isMatch ([.leading,.star] ++ endingTokens words) text = true
    rw [isMatch_append_endingTokens]
    change (allAccept _ [.star] _ || afterSomeSlash (allAccept _ [.star]) _) = true
    rw [Bool.or_eq_true,afterSomeSlash_iff]
    by_cases deep : '/' ∈ front
    · -- The star matches what stands after the last slash.
      obtain ⟨word,member,alone,rfl⟩ := ending
      obtain ⟨after,before,reversed,clean⟩ := List.eq_append_cons_of_mem (List.mem_reverse.mpr deep)
      have cut : front = before.reverse ++ '/' :: after.reverse := by
        simpa using congrArg List.reverse reversed
      have clean : '/' ∉ after.reverse := by simpa using clean
      have matched := single clean ⟨word,member,alone,rfl⟩
      refine .inr ⟨Utf8.encode before.reverse,_,?_,matched⟩
      rw [cut]
      simp [Utf8.utf8EncodeChar_of_lt (c := '/') (by decide)]
      rfl
    · exact .inl (single deep ending)

theorem parse?_star (nonempty : words ≠ []) (plain : ∀ word ∈ words, ∀ c ∈ word, IsPlain c)
    (chars : pattern.toList = '*' :: endingText words) :
    parse? pattern = some (.star :: endingTokens words) := by
  rw [parse?,chars]
  have read := parseFrom_endingText 0 [] (Group.start.push .star) (some '*') nonempty plain
  obtain ⟨ending,text⟩ := exists_endingText words
  rw [Nat.zero_add,text] at read
  rw [text]
  exact read

theorem parse?_leading_star (nonempty : words ≠ [])
    (plain : ∀ word ∈ words, ∀ c ∈ word, IsPlain c)
    (chars : pattern.toList = '*' :: '*' :: '/' :: '*' :: endingText words) :
    parse? pattern = some (.leading :: .star :: endingTokens words) := by
  rw [parse?,chars]
  have read := parseFrom_endingText 2 [] ⟨[],[.star,.leading]⟩ (some '*') nonempty plain
  obtain ⟨ending,text⟩ := exists_endingText words
  have size : 2 + ('.' :: ending).length + 1 = ('.' :: ending).length + 3 := by omega
  rw [text,size] at read
  rw [text]
  exact read

theorem exists_of_parse? (nonempty : words ≠ []) (plain : ∀ word ∈ words, ∀ c ∈ word, IsPlain c)
    {front : List Char} {tokens : List Token} (chars : pattern.toList = front ++ endingText words)
    (parsed : parse? pattern = some tokens) : ∃ before, tokens = before ++ endingTokens words := by
  rw [parse?,chars] at parsed
  exact exists_of_parseFrom nonempty plain parsed

end Matching

end ViewTemplates.Glob
