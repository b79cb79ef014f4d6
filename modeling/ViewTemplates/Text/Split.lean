/-! Cutting text at a separator and joining it again. -/
namespace ViewTemplates.Text

/-- The parts between the separators; one part more than there are separators. -/
def pieces (separator : Char) : List Char → List (List Char)
  | [] => [[]]
  | c :: rest =>
    if c = separator then [] :: pieces separator rest
    else match pieces separator rest with
      | [] => [[c]]
      | part :: parts => (c :: part) :: parts

def joined (separator : List Char) : List (List Char) → List Char
  | [] => []
  | [part] => part
  | part :: next :: rest => part ++ separator ++ joined separator (next :: rest)

theorem pieces_ne_nil (separator : Char) (s : List Char) : pieces separator s ≠ [] := by
  cases s with
  | nil => simp [pieces]
  | cons c rest =>
    simp only [pieces]
    split
    · simp
    · split <;> simp

/-- Cutting loses nothing but the separators. -/
theorem joined_pieces (separator : Char) (s : List Char) :
    joined [separator] (pieces separator s) = s := by
  induction s with
  | nil => rfl
  | cons c rest ih =>
    simp only [pieces]
    rcases found : pieces separator rest with _ | ⟨part,parts⟩
    · exact absurd found (pieces_ne_nil separator rest)
    · rw [found] at ih
      split
      next same => simp [joined,ih,same]
      next =>
        cases parts with
        | nil => simpa [joined] using ih
        | cons next parts =>
          simp only [joined] at ih ⊢
          rw [List.cons_append,List.cons_append,ih]

theorem not_mem_of_mem_pieces {separator : Char} {s part : List Char}
    (member : part ∈ pieces separator s) : separator ∉ part := by
  induction s generalizing part with
  | nil => simp_all [pieces]
  | cons c rest ih =>
    simp only [pieces] at member
    split at member
    next =>
      rcases List.mem_cons.mp member with rfl | later
      · simp
      · exact ih later
    next differs =>
      rcases found : pieces separator rest with _ | ⟨head,parts⟩
      · exact absurd found (pieces_ne_nil separator rest)
      · rw [found] at member ih
        rcases List.mem_cons.mp member with rfl | later
        · have := ih List.mem_cons_self
          simp [this,Ne.symm differs]
        · exact ih (List.mem_cons_of_mem _ later)

/-- The parts in a row are the text without the separators. -/
theorem flatten_pieces (separator : Char) (s : List Char) :
    (pieces separator s).flatten = s.filter (· ≠ separator) := by
  induction s with
  | nil => rfl
  | cons c rest ih =>
    simp only [pieces]
    split
    next same => simpa [same] using ih
    next differs =>
      rcases found : pieces separator rest with _ | ⟨part,parts⟩
      · exact absurd found (pieces_ne_nil separator rest)
      · rw [found] at ih
        simpa [differs] using ih

/-- Cutting text at a separator cuts what stands on either side of it. -/
theorem pieces_append (separator : Char) (s t : List Char) :
    pieces separator (s ++ separator :: t) = pieces separator s ++ pieces separator t := by
  induction s with
  | nil => simp [pieces]
  | cons c rest ih =>
    simp only [List.cons_append,pieces,ih]
    split
    · rfl
    · rcases found : pieces separator rest with _ | ⟨part,parts⟩
      · exact absurd found (pieces_ne_nil separator rest)
      · rfl

theorem pieces_of_not_mem {separator : Char} {s : List Char} (absent : separator ∉ s) :
    pieces separator s = [s] := by
  induction s with
  | nil => rfl
  | cons c rest ih =>
    obtain ⟨differs,absent⟩ := List.ne_and_not_mem_of_not_mem_cons absent
    simp [pieces,ih absent,Ne.symm differs]

/-- Parts that the separator is not in are found again. -/
theorem pieces_joined {separator : Char} {parts : List (List Char)} (nonempty : parts ≠ [])
    (absent : ∀ part ∈ parts, separator ∉ part) :
    pieces separator (joined [separator] parts) = parts := by
  fun_induction joined [separator] parts with
  | case1 => exact absurd rfl nonempty
  | case2 part => exact pieces_of_not_mem (absent part List.mem_cons_self)
  | case3 part next rest ih =>
    obtain ⟨here,later⟩ := List.forall_mem_cons.mp absent
    rw [List.append_assoc,List.singleton_append,pieces_append,pieces_of_not_mem here,
      ih (by simp) later]
    rfl

theorem mem_of_mem_joined {separator : List Char} {parts : List (List Char)} {c : Char}
    (member : c ∈ joined separator parts) : c ∈ separator ∨ ∃ part ∈ parts, c ∈ part := by
  fun_induction joined separator parts with
  | case1 => contradiction
  | case2 part => exact .inr ⟨part,List.mem_cons_self,member⟩
  | case3 part next rest ih =>
    rcases List.mem_append.mp member with early | late
    · rcases List.mem_append.mp early with inPart | between
      · exact .inr ⟨part,List.mem_cons_self,inPart⟩
      · exact .inl between
    · exact (ih late).imp_right fun ⟨part,inRest,inPart⟩ =>
        ⟨part,List.mem_cons_of_mem _ inRest,inPart⟩

theorem mem_joined {separator part : List Char} {parts : List (List Char)} {c : Char}
    (member : part ∈ parts) (inPart : c ∈ part) : c ∈ joined separator parts := by
  fun_induction joined separator parts with
  | case1 => contradiction
  | case2 only => exact List.mem_singleton.mp member ▸ inPart
  | case3 first next rest ih =>
    rcases List.mem_cons.mp member with rfl | later
    · exact List.mem_append_left _ (List.mem_append_left _ inPart)
    · exact List.mem_append_right _ (ih later)

theorem exists_joined_cons (separator part : List Char) (parts : List (List Char)) :
    ∃ rest, joined separator (part :: parts) = part ++ rest := by
  cases parts with
  | nil => exact ⟨[],(List.append_nil part).symm⟩
  | cons next parts => exact ⟨_,List.append_assoc _ _ _⟩

theorem joined_concat {separator : List Char} {parts : List (List Char)} (nonempty : parts ≠ [])
    (last : List Char) :
    joined separator (parts ++ [last]) = joined separator parts ++ separator ++ last := by
  fun_induction joined separator parts with
  | case1 => exact absurd rfl nonempty
  | case2 part => rfl
  | case3 part next rest ih =>
    simp only [List.cons_append,joined] at ih ⊢
    rw [ih (by simp)]
    simp only [List.append_assoc]

/-- An ending without the separator is an ending of the last part. -/
theorem exists_joined_concat_iff {separator : Char} {ending : List Char}
    (absent : separator ∉ ending) (parts : List (List Char)) (last : List Char) :
    (∃ front, joined [separator] (parts ++ [last]) = front ++ ending) ↔
      ∃ stem, last = stem ++ ending := by
  by_cases single : parts = []
  · subst single
    rfl
  · rw [joined_concat single]
    constructor
    · rintro ⟨front,same⟩
      rcases List.append_eq_append_iff.mp same with ⟨stem,-,after⟩ | ⟨middle,before,after⟩
      · exact ⟨stem,after⟩
      · rcases List.eq_nil_or_concat middle with rfl | ⟨middle,c,rfl⟩
        · exact ⟨[],after.symm⟩
        · -- The character before the last part would be the separator.
          rw [List.concat_eq_append] at before after
          rw [← List.append_assoc] at before
          obtain ⟨-,same⟩ := List.append_inj' before rfl
          simp_all
    · rintro ⟨stem,rfl⟩
      exact ⟨_,(List.append_assoc _ _ _).symm⟩

/-- The text before the first separator, and the text after it if there is one. -/
def cut (separator : Char) : List Char → List Char × Option (List Char)
  | [] => ([],none)
  | c :: rest =>
    if c = separator then ([],some rest)
    else
      let (before,after) := cut separator rest
      (c :: before,after)

theorem head?_pieces (separator : Char) (s : List Char) :
    (pieces separator s).head? = some (cut separator s).1 := by
  induction s with
  | nil => rfl
  | cons c rest ih =>
    simp only [pieces,cut]
    split
    · rfl
    · rcases found : pieces separator rest with _ | ⟨part,parts⟩
      · exact absurd found (pieces_ne_nil separator rest)
      · rw [found] at ih
        exact congrArg (·.map (c :: ·)) ih

/-- The text before the last separator and the text after it, if there is a separator. -/
def cutLast? (separator : Char) (s : List Char) : Option (List Char × List Char) :=
  match cut separator s.reverse with
  | (_,none) => none
  | (after,some before) => some (before.reverse,after.reverse)

theorem cut_append {separator : Char} {before : List Char} (absent : separator ∉ before)
    (after : List Char) : cut separator (before ++ separator :: after) = (before,some after) := by
  induction before with
  | nil => simp [cut]
  | cons c rest ih =>
    obtain ⟨differs,absent⟩ := List.ne_and_not_mem_of_not_mem_cons absent
    simp [cut,ih absent,Ne.symm differs]

theorem of_cut {separator : Char} {s before after : List Char}
    (found : cut separator s = (before,some after)) :
    s = before ++ separator :: after ∧ separator ∉ before := by
  induction s generalizing before with
  | nil => simp [cut] at found
  | cons c rest ih =>
    simp only [cut] at found
    split at found
    next same =>
      obtain ⟨rfl,ended⟩ := Prod.mk.inj found
      obtain rfl := Option.some.inj ended
      simp [same]
    next differs =>
      obtain ⟨rfl,ended⟩ := Prod.mk.inj found
      obtain ⟨whole,absent⟩ := ih (Prod.ext rfl ended)
      refine ⟨congrArg (c :: ·) whole,fun member => ?_⟩
      rcases List.mem_cons.mp member with same | later
      · exact differs same.symm
      · exact absent later

theorem cutLast?_append {separator : Char} {after : List Char} (absent : separator ∉ after)
    (before : List Char) :
    cutLast? separator (before ++ separator :: after) = some (before,after) := by
  have reversed : (before ++ separator :: after).reverse =
      after.reverse ++ separator :: before.reverse := by simp
  rw [cutLast?,reversed,cut_append (by simpa using absent)]
  simp

theorem of_cutLast? {separator : Char} {s before after : List Char}
    (found : cutLast? separator s = some (before,after)) :
    s = before ++ separator :: after ∧ separator ∉ after := by
  unfold cutLast? at found
  split at found
  next => contradiction
  next ending start reversed =>
    obtain ⟨rfl,rfl⟩ := Prod.mk.inj (Option.some.inj found)
    obtain ⟨whole,absent⟩ := of_cut reversed
    refine ⟨?_,by simpa using absent⟩
    rw [← List.reverse_reverse s,whole]
    simp

theorem cutLast?_eq_some_iff {separator : Char} {s before after : List Char} :
    cutLast? separator s = some (before,after) ↔
      s = before ++ separator :: after ∧ separator ∉ after :=
  ⟨of_cutLast?,fun ⟨whole,absent⟩ => whole ▸ cutLast?_append absent before⟩

/-- The text without a given ending, if it has it. -/
def dropEnding? (ending s : List Char) : Option (List Char) :=
  if ending.isSuffixOf s then some (s.take (s.length - ending.length)) else none

def occursIn (part : List Char) : List Char → Bool
  | [] => part.isEmpty
  | c :: rest => part.isPrefixOf (c :: rest) || occursIn part rest

/-- Replaces every occurrence of a non-empty part, from the left and without overlaps; `fuel` is
at least the length of the text. -/
def replaceFrom (fuel : Nat) (part replacement s : List Char) : List Char :=
  match fuel, s with
  | 0, s => s
  | _, [] => []
  | fuel + 1, c :: rest =>
    if part.isPrefixOf (c :: rest) then
      replacement ++ replaceFrom fuel part replacement ((c :: rest).drop part.length)
    else c :: replaceFrom fuel part replacement rest

/-- Replaces every occurrence of `part`. The empty part occurs before every character and at the
end. -/
def replaceAll (part replacement s : List Char) : List Char :=
  if part.isEmpty then replacement ++ s.flatMap fun c => c :: replacement
  else replaceFrom (s.length + 1) part replacement s

end ViewTemplates.Text
