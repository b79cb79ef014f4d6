import ViewTemplates.Glob.Match
import ViewTemplates.Proofs.Utf8

/-! What globs match. Every piece leaves an ending of the text to the pieces after it, so the last
pieces of a glob say what every text that it matches ends in. -/
namespace ViewTemplates.Glob

variable {next : Bytes → Bool} {s : Bytes}

theorem afterLiteral_iff {bytes : Bytes} :
    afterLiteral next bytes s = true ↔ ∃ rest, s = bytes ++ rest ∧ next rest = true := by
  fun_induction afterLiteral next bytes s with
  | case1 s => simp
  | case2 b bytes c s ih =>
    simp only [Bool.and_eq_true,beq_iff_eq,ih,List.cons_append,List.cons.injEq]
    grind
  | case3 b bytes => simp

theorem afterNoSlash_iff :
    afterNoSlash next s = true ↔
      ∃ front rest, s = front ++ rest ∧ slash ∉ front ∧ next rest = true := by
  induction s with
  | nil => simp [afterNoSlash]
  | cons b s ih =>
    simp only [afterNoSlash,Bool.or_eq_true,Bool.and_eq_true,bne_iff_ne,ih]
    constructor
    · rintro (here | ⟨noSlash,front,rest,rfl,clean,accepted⟩)
      · exact ⟨[],b :: s,rfl,by simp,here⟩
      · exact ⟨b :: front,rest,rfl,by simp [clean,Ne.symm noSlash],accepted⟩
    · rintro ⟨front,rest,same,clean,accepted⟩
      rcases front with _ | ⟨first,front⟩
      · exact .inl (same ▸ accepted)
      · obtain ⟨rfl,rfl⟩ := List.cons.inj same
        obtain ⟨differs,clean⟩ := not_or.mp (List.mem_cons.not.mp clean)
        exact .inr ⟨Ne.symm differs,front,rest,rfl,clean,accepted⟩

theorem afterSomeSlash_iff :
    afterSomeSlash next s = true ↔ ∃ front rest, s = front ++ slash :: rest ∧ next rest = true := by
  induction s with
  | nil => simp [afterSomeSlash]
  | cons b s ih =>
    simp only [afterSomeSlash,Bool.or_eq_true,Bool.and_eq_true,beq_iff_eq,ih]
    constructor
    · rintro (⟨rfl,accepted⟩ | ⟨front,rest,rfl,accepted⟩)
      · exact ⟨[],s,rfl,accepted⟩
      · exact ⟨b :: front,rest,rfl,accepted⟩
    · rintro ⟨front,rest,same,accepted⟩
      rcases front with _ | ⟨first,front⟩
      · obtain ⟨rfl,rfl⟩ := List.cons.inj same
        exact .inl ⟨rfl,accepted⟩
      · obtain ⟨rfl,rfl⟩ := List.cons.inj same
        exact .inr ⟨front,rest,rfl,accepted⟩

theorem exists_suffix_of_anySuffix (accepted : anySuffix next s = true) :
    ∃ rest, rest <:+ s ∧ next rest = true := by
  induction s with
  | nil => exact ⟨[],List.suffix_rfl,accepted⟩
  | cons b s ih =>
    rcases Bool.or_eq_true_iff.mp accepted with here | later
    · exact ⟨b :: s,List.suffix_rfl,here⟩
    · obtain ⟨rest,suffix,accepted⟩ := ih later
      exact ⟨rest,suffix.trans (List.suffix_cons _ _),accepted⟩

mutual

/-- What follows a piece accepts an ending of the text. -/
theorem exists_suffix_of_accepts {next : Bytes → Bool} : ∀ (token : Token) {s : Bytes},
    token.accepts next s = true → ∃ rest, rest <:+ s ∧ next rest = true
  | .literal c, s, accepted => by
    obtain ⟨rest,rfl,follows⟩ := afterLiteral_iff.mp accepted
    exact ⟨rest,List.suffix_append _ _,follows⟩
  | .any, s, accepted => by
    rcases s with _ | ⟨b,rest⟩
    · contradiction
    · exact ⟨rest,List.suffix_cons _ _,(Bool.and_eq_true_iff.mp accepted).2⟩
  | .star, s, accepted => by
    obtain ⟨front,rest,rfl,_,follows⟩ := afterNoSlash_iff.mp accepted
    exact ⟨rest,List.suffix_append _ _,follows⟩
  | .leading, s, accepted => by
    rcases Bool.or_eq_true_iff.mp accepted with here | later
    · exact ⟨s,List.suffix_rfl,here⟩
    · obtain ⟨front,rest,rfl,follows⟩ := afterSomeSlash_iff.mp later
      exact ⟨rest,⟨front ++ [slash],by simp⟩,follows⟩
  | .trailing, s, accepted => by
    rcases s with _ | ⟨b,rest⟩
    · contradiction
    · obtain ⟨ending,suffix,accepted⟩ :=
        exists_suffix_of_anySuffix (Bool.and_eq_true_iff.mp accepted).2
      exact ⟨ending,suffix.trans (List.suffix_cons _ _),accepted⟩
  | .middle, s, accepted => by
    rcases s with _ | ⟨b,rest⟩
    · contradiction
    · rcases Bool.or_eq_true_iff.mp (Bool.and_eq_true_iff.mp accepted).2 with here | later
      · exact ⟨rest,List.suffix_cons _ _,here⟩
      · obtain ⟨front,ending,rfl,follows⟩ := afterSomeSlash_iff.mp later
        exact ⟨ending,⟨b :: front ++ [slash],by simp⟩,follows⟩
  | .byteClass _ _, s, accepted => by
    rcases s with _ | ⟨b,rest⟩
    · contradiction
    · exact ⟨rest,List.suffix_cons _ _,(Bool.and_eq_true_iff.mp accepted).2⟩
  | .alternatives branches, s, accepted => by
    rw [Token.accepts] at accepted
    split at accepted
    · exact ⟨s,List.suffix_rfl,accepted⟩
    · exact exists_suffix_of_someAccepts branches accepted

theorem exists_suffix_of_allAccept {next : Bytes → Bool} : ∀ (tokens : List Token) {s : Bytes},
    allAccept next tokens s = true → ∃ rest, rest <:+ s ∧ next rest = true
  | [], s, accepted => ⟨s,List.suffix_rfl,accepted⟩
  | token :: rest, s, accepted => by
    obtain ⟨middle,suffix,accepted⟩ := exists_suffix_of_accepts token accepted
    obtain ⟨ending,suffix',accepted⟩ := exists_suffix_of_allAccept rest accepted
    exact ⟨ending,suffix'.trans suffix,accepted⟩

theorem exists_suffix_of_someAccepts {next : Bytes → Bool} : ∀ (branches : List (List Token))
    {s : Bytes}, someAccepts next branches s = true → ∃ rest, rest <:+ s ∧ next rest = true
  | [], _, accepted => by contradiction
  | branch :: rest, s, accepted => by
    rcases Bool.or_eq_true_iff.mp accepted with here | later
    · exact exists_suffix_of_allAccept branch (Bool.and_eq_true_iff.mp here).2
    · exact exists_suffix_of_someAccepts rest later

end

theorem allAccept_append (first second : List Token) :
    allAccept next (first ++ second) = allAccept (allAccept next second) first := by
  induction first with
  | nil => rfl
  | cons token rest ih =>
    funext s
    simp only [List.cons_append,allAccept,ih]

theorem allAccept_literals_iff {word : List Char} :
    allAccept next (word.map .literal) s = true ↔
      ∃ rest, s = Utf8.encode word ++ rest ∧ next rest = true := by
  induction word generalizing s with
  | nil => simp [allAccept]
  | cons c word ih =>
    simp only [List.map_cons,allAccept,Token.accepts,afterLiteral_iff,ih,Utf8.encode_cons]
    constructor
    · rintro ⟨_,rfl,rest,rfl,accepted⟩
      exact ⟨rest,by simp,accepted⟩
    · rintro ⟨rest,rfl,accepted⟩
      exact ⟨_,List.append_assoc _ _ _,rest,rfl,accepted⟩

theorem someAccepts_iff {branches : List (List Token)} :
    someAccepts next branches s = true ↔
      ∃ branch ∈ branches, isVacuousBranch branch = false ∧ allAccept next branch s = true := by
  induction branches with
  | nil => simp [someAccepts]
  | cons branch rest ih => simp [someAccepts,ih]

theorem allVacuous_iff {branches : List (List Token)} :
    allVacuous branches = true ↔ ∀ branch ∈ branches, isVacuousBranch branch = true := by
  induction branches with
  | nil => simp [allVacuous]
  | cons branch rest ih => simp [allVacuous,ih]

theorem isVacuousBranch_literals (word : List Char) :
    isVacuousBranch (word.map .literal) = word.isEmpty := by
  cases word <;> simp [isVacuousBranch,Token.isVacuous]

end ViewTemplates.Glob
