import ViewTemplates.Naming

/-! Words in lower case. The words of a text in a row are its letters and digits, so none of them is
lost and nothing else is in a word; of a text in ASCII, the words joined by underscores are small
letters, digits and underscores. -/
namespace ViewTemplates.Naming

/-! ### Words -/

/-- Cutting loses nothing, neither of the text nor of the word that is being read. -/
theorem flatten_wordsFrom (letters : Letters) (word s : List Char) (nonempty : s ≠ []) :
    (wordsFrom letters word s).flatten = word.reverse ++ s := by
  fun_induction wordsFrom letters word s with
  | case1 => contradiction
  | case2 => simp
  | case3 letters word c next rest after boundary ih => simp [ih]
  | case4 letters word c next rest after boundary capital ih => simp [ih]
  | case5 letters word c next rest after boundary capital ih => simp [ih]

theorem flatten_runs (s : List Char) : (runs s).flatten = s.filter Text.isAlphanumeric := by
  have blank : Text.isAlphanumeric ' ' = false := by decide +kernel
  rw [runs,List.flatten_filter_not_isEmpty,Text.flatten_pieces]
  induction s with
  | nil => rfl
  | cons c rest ih =>
    by_cases kept : Text.isAlphanumeric c = true
    · have differs : c ≠ ' ' := by
        rintro rfl
        simp [blank] at kept
      simpa [kept,differs] using ih
    · simpa [kept] using ih

/-- No letter and no digit is lost, and no other character is kept. -/
theorem flatten_words (s : List Char) : (words s).flatten = s.filter Text.isAlphanumeric := by
  have each : ∀ run ∈ runs s, (wordsFrom .none [] run).flatten = run := by
    intro run member
    have nonempty : run ≠ [] := by simpa using (List.mem_filter.mp member).2
    simpa using flatten_wordsFrom .none [] run nonempty
  rw [words,List.flatMap_def,List.flatten_flatten,List.map_map,← flatten_runs]
  exact congrArg List.flatten ((List.map_congr_left each).trans (List.map_id _))

/-! ### Lower case -/

/-- Only a sigma has a form of its own at the end of a word. -/
theorem lowerWord_of_isAscii {word : List Char} (ascii : ∀ c ∈ word, Text.isAscii c = true) :
    lowerWord word = word.flatMap Text.lowerOf := by
  fun_induction lowerWord word with
  | case1 => rfl
  | case2 c sigma =>
    have here := ascii c List.mem_cons_self
    simp only [Text.isAscii,decide_eq_true_eq] at here
    omega
  | case3 c notSigma => simp
  | case4 c rest other ih => rw [ih (List.forall_mem_cons.mp ascii).2,List.flatMap_cons]

/-- Small letters, digits and underscores, and at least one of them. -/
def IsSnakeCase (s : List Char) : Prop :=
  s ≠ [] ∧ ∀ c ∈ s, Text.isAsciiLower c = true ∨ Text.isAsciiDigit c = true ∨ c = '_'

section

variable {s word : List Char} {c : Char} (ascii : ∀ c ∈ s, Text.isAscii c = true)

include ascii

theorem isAsciiAlphanumeric_of_mem_words (member : word ∈ words s) (inWord : c ∈ word) :
    Text.isAsciiAlphanumeric c = true := by
  have inRow : c ∈ (words s).flatten := List.mem_flatten.mpr ⟨word,member,inWord⟩
  rw [flatten_words,List.mem_filter] at inRow
  obtain ⟨inText,alphanumeric⟩ := inRow
  simpa [Text.isAlphanumeric,ascii c inText] using alphanumeric

theorem lowerWord_of_mem_words (member : word ∈ words s) :
    lowerWord word = word.flatMap Text.lowerOf := by
  apply lowerWord_of_isAscii
  intro c inWord
  exact Text.isAscii_of_isAsciiAlphanumeric (isAsciiAlphanumeric_of_mem_words ascii member inWord)

/-- A text in ASCII with a letter or a digit has a name in lower case. -/
theorem isSnakeCase_snakeCase (inText : c ∈ s) (alphanumeric : Text.isAlphanumeric c = true) :
    IsSnakeCase (snakeCase s) := by
  constructor
  · have inRow : c ∈ (words s).flatten := by
      rw [flatten_words]
      exact List.mem_filter.mpr ⟨inText,alphanumeric⟩
    obtain ⟨word,member,inWord⟩ := List.mem_flatten.mp inRow
    obtain ⟨d,lower,-⟩ :=
      Text.lowerOf_of_isAsciiAlphanumeric (isAsciiAlphanumeric_of_mem_words ascii member inWord)
    have lowered : d ∈ lowerWord word := by
      rw [lowerWord_of_mem_words ascii member]
      exact List.mem_flatMap.mpr ⟨c,inWord,by simp [lower]⟩
    exact List.ne_nil_of_mem (Text.mem_joined (List.mem_map_of_mem member) lowered)
  · intro d inName
    rcases Text.mem_of_mem_joined inName with between | ⟨lowered,among,inLowered⟩
    · exact .inr (.inr (List.mem_singleton.mp between))
    · obtain ⟨word,member,rfl⟩ := List.mem_map.mp among
      rw [lowerWord_of_mem_words ascii member] at inLowered
      obtain ⟨original,inWord,inLower⟩ := List.mem_flatMap.mp inLowered
      obtain ⟨e,lower,plain⟩ :=
        Text.lowerOf_of_isAsciiAlphanumeric (isAsciiAlphanumeric_of_mem_words ascii member inWord)
      obtain rfl : d = e := by simpa [lower] using inLower
      exact plain.imp_right .inl

end

end ViewTemplates.Naming
