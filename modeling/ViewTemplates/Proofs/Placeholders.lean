import Mathlib.Data.List.Chain
import Mathlib.Data.List.TakeWhile
import ViewTemplates.Template.Placeholder

/-! The notation of text with placeholders, read backwards. What reading produces is canonical: its
literals are not empty and stand apart, and a placeholder has the path that stands between its
braces. Every canonical list has a written form, in which the braces of the literals are doubled,
and both ways of reading take it back to the list. -/
namespace ViewTemplates

namespace Text

/-- Trimming leaves nothing of blank text, and something of any other. -/
theorem trim_eq_nil_iff {s : List Char} : trim s = [] ↔ ∀ c ∈ s, isBlank c = true := by
  simp only [trim,trimEnd,trimStart,List.reverse_eq_nil_iff,List.dropWhile_eq_nil_iff,
    List.mem_reverse]
  constructor
  · intro blank c member
    rw [← List.takeWhile_append_dropWhile (p := isBlank) (l := s)] at member
    rcases List.mem_append.mp member with early | late
    · exact List.mem_takeWhile_imp early
    · exact blank c late
  · intro blank c member
    exact blank c (List.dropWhile_sublist isBlank |>.mem member)

end Text

namespace Segment

def doubled (text : List Char) : List Char :=
  text.flatMap fun c => if c = '{' ∨ c = '}' then [c,c] else [c]

def written : Segment → List Char
  | .literal text => doubled text
  | .placeholder _ raw => '{' :: raw ++ ['}']

def writtenAll (segments : List Segment) : List Char := segments.flatMap written

theorem writtenAll_cons_literal (text : List Char) (rest : List Segment) :
    writtenAll (.literal text :: rest) = doubled text ++ writtenAll rest := List.flatMap_cons

theorem writtenAll_cons_placeholder (path raw : List Char) (rest : List Segment) :
    writtenAll (.placeholder path raw :: rest) = '{' :: raw ++ '}' :: writtenAll rest := by
  simp [writtenAll,written]

/-- Text that can stand between the braces of a placeholder. -/
structure IsRaw (raw : List Char) : Prop where
  unclosed : '}' ∉ raw
  single : raw.head? ≠ some '{'
  visible : ∃ c ∈ raw, Text.isBlank c = false

/-- Text that is one placeholder and nothing else. -/
structure IsSole (s raw : List Char) : Prop where
  isRaw : IsRaw raw
  whole : s = '{' :: raw ++ ['}']

def WellFormed : Segment → Prop
  | .literal text => text ≠ []
  | .placeholder path raw => IsRaw raw ∧ path = Text.trim raw

/-- Segments of which every one is well formed and of which no two literals stand side by side. -/
structure Canonical (segments : List Segment) : Prop where
  wellFormed : ∀ segment ∈ segments, segment.WellFormed
  apart : segments.IsChain fun a b => a.isPlaceholder ∨ b.isPlaceholder

theorem IsRaw.trim_ne_nil {raw : List Char} (isRaw : IsRaw raw) : Text.trim raw ≠ [] := by
  intro blank
  obtain ⟨c,member,visible⟩ := isRaw.visible
  have := Text.trim_eq_nil_iff.mp blank c member
  simp [visible] at this

theorem canonical_nil : Canonical [] := ⟨by simp,.nil⟩

theorem canonical_cons_placeholder_iff {path raw : List Char} {rest : List Segment} :
    Canonical (.placeholder path raw :: rest) ↔
      (IsRaw raw ∧ path = Text.trim raw) ∧ Canonical rest := by
  constructor
  · rintro ⟨wellFormed,apart⟩
    obtain ⟨here,later⟩ := List.forall_mem_cons.mp wellFormed
    exact ⟨here,later,apart.tail⟩
  · rintro ⟨here,wellFormed,apart⟩
    refine ⟨List.forall_mem_cons.mpr ⟨here,wellFormed⟩,apart.cons fun _ _ => ?_⟩
    exact .inl rfl

theorem canonical_cons_literal_iff {text : List Char} {rest : List Segment} :
    Canonical (.literal text :: rest) ↔
      text ≠ [] ∧ (∀ segment ∈ rest.head?, segment.isPlaceholder) ∧ Canonical rest := by
  constructor
  · rintro ⟨wellFormed,apart⟩
    obtain ⟨here,later⟩ := List.forall_mem_cons.mp wellFormed
    refine ⟨here,fun segment first => ?_,later,apart.tail⟩
    have := List.isChain_cons.mp apart
    simpa [isPlaceholder] using this.1 segment first
  · rintro ⟨here,first,wellFormed,apart⟩
    refine ⟨List.forall_mem_cons.mpr ⟨here,wellFormed⟩,apart.cons fun segment member => ?_⟩
    exact .inr (first segment member)

theorem flush_of_ne_nil {collected : List Char} (nonempty : collected ≠ [])
    (segments : List Segment) :
    flush collected segments = .literal collected.reverse :: segments := by
  simp [flush,nonempty]

/-- Collected characters make a literal of their own before a placeholder or at the end. -/
theorem Canonical.flush {segments : List Segment} (canonical : Canonical segments)
    {collected : List Char} (first : ∀ segment ∈ segments.head?, segment.isPlaceholder) :
    Canonical (flush collected segments) := by
  unfold Segment.flush
  split
  next => exact canonical
  next nonempty =>
    exact canonical_cons_literal_iff.mpr ⟨by simpa using nonempty,first,canonical⟩

section

variable {lenient : Bool} {collected rest : List Char}

theorem parseFrom_nil : parseFrom lenient collected [] = .ok (flush collected []) := by
  rw [parseFrom]

theorem parseFrom_doubled_open :
    parseFrom lenient collected ('{' :: '{' :: rest) =
      parseFrom lenient ('{' :: collected) rest := by
  rw [parseFrom]

theorem parseFrom_doubled_close :
    parseFrom lenient collected ('}' :: '}' :: rest) =
      parseFrom lenient ('}' :: collected) rest := by
  rw [parseFrom]

theorem parseFrom_plain {c : Char} (opens : c ≠ '{') (closes : c ≠ '}') :
    parseFrom lenient collected (c :: rest) = parseFrom lenient (c :: collected) rest := by
  rw [parseFrom] <;> simp_all

theorem parseFrom_placeholder {raw : List Char} (isRaw : IsRaw raw) :
    parseFrom lenient collected ('{' :: raw ++ '}' :: rest) =
      (parseFrom lenient [] rest).map fun segments =>
        flush collected (.placeholder (Text.trim raw) raw :: segments) := by
  have found := Text.cut_append isRaw.unclosed rest
  have named : (Text.trim raw).isEmpty = false := by
    simpa using isRaw.trim_ne_nil
  rw [List.cons_append,parseFrom]
  · split
    next cutOff => rw [found] at cutOff; simp at cutOff
    next cutRaw after same =>
      rw [found] at same
      obtain ⟨rfl,ended⟩ := Prod.mk.inj same
      obtain rfl := Option.some.inj ended
      simp [named]
  · -- The braces are not doubled.
    intro again same
    cases raw with
    | nil => exact isRaw.trim_ne_nil rfl
    | cons c raw =>
      obtain ⟨rfl,-⟩ := List.cons.inj same
      exact isRaw.single rfl

theorem parseFrom_doubled (text : List Char) :
    parseFrom lenient collected (doubled text ++ rest) =
      parseFrom lenient (text.reverse ++ collected) rest := by
  induction text generalizing collected with
  | nil => rfl
  | cons c text ih =>
    have step : parseFrom lenient collected (doubled (c :: text) ++ rest) =
        parseFrom lenient (c :: collected) (doubled text ++ rest) := by
      by_cases opens : c = '{'
      · subst opens
        exact parseFrom_doubled_open
      · by_cases closes : c = '}'
        · subst closes
          exact parseFrom_doubled_close
        · simp only [doubled,List.flatMap_cons,opens,closes,or_self,if_false]
          exact parseFrom_plain opens closes
    rw [step,ih]
    simp

end

/-- What is written is read as it was; a literal that is being read may not go on. -/
theorem parseFrom_writtenAll {segments : List Segment} (canonical : Canonical segments)
    (lenient : Bool) {collected : List Char}
    (fresh : collected = [] ∨ ∀ segment ∈ segments.head?, segment.isPlaceholder) :
    parseFrom lenient collected (writtenAll segments) = .ok (flush collected segments) := by
  induction segments generalizing collected with
  | nil => exact parseFrom_nil
  | cons segment rest ih =>
    cases segment with
    | literal text =>
      obtain ⟨nonempty,first,later⟩ := canonical_cons_literal_iff.mp canonical
      have nothing : collected = [] := by
        rcases fresh with nothing | placeholder
        · exact nothing
        · exact absurd (placeholder _ rfl) (by simp [isPlaceholder])
      have reversed : text.reverse.isEmpty = false := by simpa using nonempty
      rw [nothing,writtenAll_cons_literal,parseFrom_doubled,List.append_nil,ih later (.inr first)]
      simp [flush,reversed]
    | placeholder path raw =>
      obtain ⟨⟨isRaw,rfl⟩,later⟩ := canonical_cons_placeholder_iff.mp canonical
      rw [writtenAll_cons_placeholder,parseFrom_placeholder isRaw,ih later (.inl rfl)]
      rfl

theorem isRaw_of_cut {rest raw after : List Char} (found : Text.cut '}' rest = (raw,some after))
    (single : ∀ later, rest ≠ '{' :: later) (named : (Text.trim raw).isEmpty = false) :
    IsRaw raw := by
  obtain ⟨rfl,unclosed⟩ := Text.of_cut found
  refine ⟨unclosed,fun first => ?_,?_⟩
  · obtain ⟨later,rfl⟩ := List.head?_eq_some_iff.mp first
    exact single _ rfl
  · by_contra blank
    have := Text.trim_eq_nil_iff.mpr fun c member => by
      by_contra visible
      exact blank ⟨c,member,by simpa using visible⟩
    simp [this] at named

/-- Whatever is read is canonical. -/
theorem canonical_of_parseFrom (lenient : Bool) (collected s : List Char) :
    ∀ segments, parseFrom lenient collected s = .ok segments → Canonical segments := by
  fun_induction parseFrom lenient collected s with
  | case1 collected =>
    intro segments read
    obtain rfl := Except.ok.inj read
    exact canonical_nil.flush (by simp)
  | case2 collected rest ih => exact ih
  | case3 collected rest _ raw found kept =>
    -- An unclosed brace of lenient text.
    intro segments read
    obtain rfl := Except.ok.inj read
    exact canonical_nil.flush (by simp)
  | case4 => intros; contradiction
  | case5 collected rest _ raw after found _ path blank kept ih => exact ih
  | case6 => intros; contradiction
  | case7 collected rest single raw after found _ path named ih =>
    intro segments read
    rcases later : parseFrom lenient [] after with fault | others
    · rw [later] at read
      contradiction
    · rw [later] at read
      obtain rfl := Except.ok.inj read
      have isRaw := isRaw_of_cut found (fun tail same => single tail same) (by simpa using named)
      have canonical := canonical_cons_placeholder_iff.mpr ⟨⟨isRaw,rfl⟩,ih others later⟩
      exact canonical.flush fun segment first => Option.some.inj first ▸ rfl
  | case8 collected rest ih => exact ih
  | case9 collected c rest _ _ _ ih => exact ih

/-- Lenient reading refuses nothing. -/
theorem exists_of_parseFrom_lenient (collected s : List Char) :
    ∃ segments, parseFrom true collected s = .ok segments := by
  fun_induction parseFrom true collected s with
  | case1 => exact ⟨_,rfl⟩
  | case2 collected rest ih => exact ih
  | case3 => exact ⟨_,rfl⟩
  | case4 => contradiction
  | case5 collected rest _ raw after found _ path blank kept ih => exact ih
  | case6 => contradiction
  | case7 collected rest single raw after found _ path named ih =>
    obtain ⟨segments,later⟩ := ih
    exact ⟨_,by rw [later]; rfl⟩
  | case8 collected rest ih => exact ih
  | case9 collected c rest _ _ _ ih => exact ih

theorem parseFrom_eq_parseLenient (s : List Char) :
    parseFrom true [] s = .ok (parseLenient s) := by
  obtain ⟨segments,read⟩ := exists_of_parseFrom_lenient [] s
  simp [parseLenient,read]

/-- What strict reading takes, lenient reading takes the same way. -/
theorem parseFrom_lenient (collected s : List Char) :
    ∀ segments, parseFrom false collected s = .ok segments →
      parseFrom true collected s = .ok segments := by
  fun_induction parseFrom false collected s with
  | case1 collected =>
    intro segments read
    rw [parseFrom_nil]
    exact read
  | case2 collected rest ih =>
    rw [parseFrom_doubled_open]
    exact ih
  | case3 | case5 => contradiction
  | case4 | case6 => intros; contradiction
  | case7 collected rest single raw after found _ path named ih =>
    intro segments read
    have isRaw := isRaw_of_cut found (fun tail same => single tail same) (by simpa using named)
    obtain ⟨rfl,-⟩ := Text.of_cut found
    rcases later : parseFrom false [] after with fault | others
    · rw [later] at read
      contradiction
    · rw [later] at read
      rw [← List.cons_append,parseFrom_placeholder isRaw,ih others later]
      exact read
  | case8 collected rest ih =>
    rw [parseFrom_doubled_close]
    exact ih
  | case9 collected c rest notDoubled notOpen notClose ih =>
    rw [parseFrom] <;> assumption

/-- Characters that are collected already come first, as a literal. -/
theorem exists_literal_of_parseFrom (lenient : Bool) (collected s : List Char) :
    collected ≠ [] → ∀ segments, parseFrom lenient collected s = .ok segments →
      ∃ text others, segments = .literal text :: others := by
  fun_induction parseFrom lenient collected s with
  | case1 collected =>
    intro nonempty segments read
    obtain rfl := Except.ok.inj read
    exact ⟨_,_,flush_of_ne_nil nonempty []⟩
  | case2 collected rest ih => exact fun _ => ih (List.cons_ne_nil _ _)
  | case3 collected rest _ raw found kept =>
    intro nonempty segments read
    obtain rfl := Except.ok.inj read
    exact ⟨_,_,flush_of_ne_nil (by simp) []⟩
  | case4 | case6 => intros; contradiction
  | case5 collected rest _ raw after found _ path blank kept ih => exact fun _ => ih (by simp)
  | case7 collected rest single raw after found _ path named ih =>
    intro nonempty segments read
    rcases later : parseFrom lenient [] after with fault | others
    · rw [later] at read
      contradiction
    · rw [later] at read
      obtain rfl := Except.ok.inj read
      exact ⟨_,_,flush_of_ne_nil nonempty _⟩
  | case8 collected rest ih => exact fun _ => ih (List.cons_ne_nil _ _)
  | case9 collected c rest _ _ _ ih => exact fun _ => ih (List.cons_ne_nil _ _)

/-- Segments that start with no literal are read of the empty text, or of one that starts with
their placeholder. -/
theorem of_parseFrom_unled {lenient : Bool} {s : List Char} {segments : List Segment}
    (read : parseFrom lenient [] s = .ok segments)
    (unled : ∀ segment ∈ segments.head?, segment.isPlaceholder) :
    (s = [] ∧ segments = []) ∨
      ∃ raw after others, IsRaw raw ∧ s = '{' :: raw ++ '}' :: after ∧
        parseFrom lenient [] after = .ok others ∧
        segments = .placeholder (Text.trim raw) raw :: others := by
  have notLed (text : List Char) (others : List Segment) : segments ≠ .literal text :: others := by
    rintro rfl
    exact Bool.false_ne_true (unled _ rfl)
  have notCollected {c : Char} {collected rest : List Char} :
      parseFrom lenient (c :: collected) rest ≠ .ok segments := by
    intro read
    obtain ⟨text,others,same⟩ :=
      exists_literal_of_parseFrom lenient _ rest (List.cons_ne_nil _ _) _ read
    exact notLed text others same
  revert read
  fun_cases parseFrom lenient [] s with
  | case1 => exact fun read => .inl ⟨rfl,(Except.ok.inj read).symm⟩
  | case2 rest => exact fun read => absurd read notCollected
  | case3 rest _ raw found kept =>
    intro read
    rw [flush_of_ne_nil (by simp)] at read
    exact absurd (Except.ok.inj read).symm (notLed _ _)
  | case4 | case6 => intros; contradiction
  | case5 rest _ raw after found _ path blank kept => exact fun read => absurd read notCollected
  | case7 rest single raw after found _ path named =>
    intro read
    have isRaw := isRaw_of_cut found (fun tail same => single tail same) (by simpa using named)
    obtain ⟨rfl,-⟩ := Text.of_cut found
    rcases later : parseFrom lenient [] after with fault | others
    · rw [later] at read
      contradiction
    · rw [later] at read
      obtain rfl := Except.ok.inj read
      exact .inr ⟨raw,after,others,isRaw,rfl,later,rfl⟩
  | case8 rest => exact fun read => absurd read notCollected
  | case9 c rest => exact fun read => absurd read notCollected

/-- A text is read as one placeholder exactly if it is one. -/
theorem parseFrom_eq_placeholder_iff {lenient : Bool} {s path raw : List Char} :
    parseFrom lenient [] s = .ok [.placeholder path raw] ↔ IsSole s raw ∧ path = Text.trim raw := by
  constructor
  · intro read
    rcases of_parseFrom_unled read (by simp [isPlaceholder]) with ⟨-,same⟩ | first
    · contradiction
    · obtain ⟨raw,after,others,isRaw,rfl,later,same⟩ := first
      simp only [List.cons.injEq,placeholder.injEq] at same
      obtain ⟨⟨rfl,rfl⟩,rfl⟩ := same
      rcases of_parseFrom_unled later (by simp) with ⟨rfl,-⟩ | next
      · exact ⟨⟨isRaw,rfl⟩,rfl⟩
      · obtain ⟨_,_,_,_,_,_,same⟩ := next
        contradiction
  · rintro ⟨⟨isRaw,rfl⟩,rfl⟩
    rw [parseFrom_placeholder isRaw,parseFrom_nil]
    rfl

theorem parseLenient_of_parse {s : List Char} {segments : List Segment}
    (read : parse s = .ok segments) : parseLenient s = segments := by
  simp [parseLenient,parseFrom_lenient [] s segments read]

theorem parseLenient_doubled (text : List Char) :
    parseLenient (doubled text) = flush text.reverse [] := by
  have read : parseFrom true [] (doubled text ++ []) = .ok (flush (text.reverse ++ []) []) := by
    rw [parseFrom_doubled,parseFrom_nil]
  simp only [List.append_nil] at read
  simp [parseLenient,read]

/-- The canonical lists are those that are read. Each is what both ways of reading make of its
written form, so every text can be written as a literal, and to write what was read and read it
again changes nothing. -/
theorem parse_written_canonical :
    (∀ segments, Canonical segments →
      parse (writtenAll segments) = .ok segments ∧ parseLenient (writtenAll segments) = segments) ∧
    (∀ s, (∀ segments, parse s = .ok segments →
        Canonical segments ∧ parse (writtenAll segments) = .ok segments) ∧
      parseFrom true [] s = .ok (parseLenient s) ∧ Canonical (parseLenient s)) ∧
    ∀ text, text ≠ [] → parse (doubled text) = .ok [.literal text] := by
  have strict {segments : List Segment} (canonical : Canonical segments) :
      parse (writtenAll segments) = .ok segments :=
    parseFrom_writtenAll canonical false (.inl rfl)
  refine ⟨fun segments canonical => ⟨strict canonical,?_⟩,fun s => ⟨?_,?_,?_⟩,?_⟩
  · have lenient := parseFrom_writtenAll canonical true (.inl rfl)
    rw [parseFrom_eq_parseLenient] at lenient
    exact Except.ok.inj lenient
  · intro segments read
    have canonical := canonical_of_parseFrom false [] s segments read
    exact ⟨canonical,strict canonical⟩
  · exact parseFrom_eq_parseLenient s
  · exact canonical_of_parseFrom true [] s _ (parseFrom_eq_parseLenient s)
  · intro text nonempty
    have canonical := canonical_cons_literal_iff.mpr ⟨nonempty,by simp,canonical_nil⟩
    simpa [writtenAll,written] using strict canonical

/-- A placeholder between braces that are text. -/
theorem parse_written_braced :
    Canonical [.literal ['{'],.placeholder ['x'] [' ','x'],.literal ['}']] ∧
    parse "\x7b\x7b\x7b x\x7d\x7d\x7d".toList =
      .ok [.literal ['{'],.placeholder ['x'] [' ','x'],.literal ['}']] ∧
    parseLenient "\x7b\x7b\x7b x\x7d\x7d\x7d".toList =
      [.literal ['{'],.placeholder ['x'] [' ','x'],.literal ['}']] ∧
    parse "\x7d\x7d".toList = .ok [.literal ['}']] := by
  have isRaw : IsRaw [' ','x'] := ⟨by decide,by decide,'x',by decide,by decide⟩
  have canonical : Canonical [.literal ['{'],.placeholder ['x'] [' ','x'],.literal ['}']] := by
    refine ⟨?_,by decide⟩
    intro segment member
    simp only [List.mem_cons,List.not_mem_nil,or_false] at member
    rcases member with rfl | rfl | rfl
    · exact List.cons_ne_nil _ _
    · exact ⟨isRaw,by decide⟩
    · exact List.cons_ne_nil _ _
  obtain ⟨reads,-,literals⟩ := parse_written_canonical
  obtain ⟨strict,lenient⟩ := reads _ canonical
  exact ⟨canonical,strict,lenient,literals ['}'] (by decide)⟩

end Segment
end ViewTemplates
