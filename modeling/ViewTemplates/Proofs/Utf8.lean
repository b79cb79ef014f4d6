import Mathlib.Data.List.Basic
import ViewTemplates.Text.Utf8

/-! UTF-8 as a code: no two texts have the same bytes, and a byte below 128 stands for the character
of that number and for nothing else, so a text can be cut at such a character in its bytes. The
bytes of a text are decoded as that text. -/
namespace ViewTemplates.Utf8

@[simp] theorem encode_nil : encode [] = [] := rfl

@[simp] theorem encode_cons (c : Char) (s : List Char) :
    encode (c :: s) = String.utf8EncodeChar c ++ encode s := List.flatMap_cons

@[simp] theorem encode_append (s t : List Char) : encode (s ++ t) = encode s ++ encode t :=
  List.flatMap_append

theorem encode_injective : Function.Injective encode := by
  intro s t same
  have bytes : (String.ofList s).toByteArray = (String.ofList t).toByteArray := by
    simpa [List.utf8Encode,encode] using same
  simpa using congrArg String.toList (String.toByteArray_inj.mp bytes)

theorem utf8EncodeChar_of_lt {c : Char} (ascii : c.toNat < 128) :
    String.utf8EncodeChar c = [UInt8.ofNat c.toNat] := by
  rw [String.utf8EncodeChar.eq_1,if_pos (show c.val.toNat ≤ 127 from Nat.le_of_lt_succ ascii)]
  rfl

/-- The characters from 128 on have bytes from 128 on. -/
theorem le_of_mem_utf8EncodeChar {c : Char} (beyond : 128 ≤ c.toNat) {b : UInt8}
    (member : b ∈ String.utf8EncodeChar c) : 128 ≤ b.toNat := by
  have high (n : Nat) (large : 128 ≤ n % 256) : 128 ≤ (UInt8.ofNat n).toNat := by
    rwa [UInt8.toNat_ofNat']
  rw [String.utf8EncodeChar.eq_1,if_neg (show ¬c.val.toNat ≤ 127 from Nat.not_le_of_lt beyond)]
    at member
  -- Sequences of two, three and four bytes.
  split at member
  · rcases List.mem_pair.mp member with rfl | rfl <;> exact high _ (by omega)
  · simp only [apply_ite (b ∈ ·),List.mem_cons,List.not_mem_nil,or_false] at member
    split at member
    · rcases member with rfl | rfl | rfl <;> exact high _ (by omega)
    · rcases member with rfl | rfl | rfl | rfl <;> exact high _ (by omega)

theorem utf8EncodeChar_of_mem {c a : Char} (ascii : a.toNat < 128)
    (member : UInt8.ofNat a.toNat ∈ String.utf8EncodeChar c) : c = a := by
  have value : (UInt8.ofNat a.toNat).toNat = a.toNat := by
    rw [UInt8.toNat_ofNat']
    omega
  by_cases here : c.toNat < 128
  · rw [utf8EncodeChar_of_lt here,List.mem_singleton] at member
    have same := congrArg UInt8.toNat member
    rw [value,UInt8.toNat_ofNat',Nat.mod_eq_of_lt (by omega)] at same
    exact (Char.toNat_inj.mp same).symm
  · have beyond := le_of_mem_utf8EncodeChar (Nat.le_of_not_lt here) member
    omega

theorem mem_encode_iff {a : Char} (ascii : a.toNat < 128) {s : List Char} :
    UInt8.ofNat a.toNat ∈ encode s ↔ a ∈ s := by
  constructor
  · intro member
    obtain ⟨c,inText,inCode⟩ := List.mem_flatMap.mp member
    exact utf8EncodeChar_of_mem ascii inCode ▸ inText
  · intro member
    refine List.mem_flatMap.mpr ⟨a,member,?_⟩
    rw [utf8EncodeChar_of_lt ascii]
    exact List.mem_singleton_self _

/-- Bytes that end in the code of a text whose first character is below 128 are cut there in the
text too. -/
theorem exists_of_encode_eq_append {a : Char} (ascii : a.toNat < 128) {s t : List Char}
    {front : Bytes} (same : encode s = front ++ encode (a :: t)) :
    ∃ q, s = q ++ a :: t ∧ front = encode q := by
  induction s generalizing front with
  | nil =>
    rw [encode_cons,utf8EncodeChar_of_lt ascii] at same
    simp at same
  | cons c s ih =>
    rcases front with _ | ⟨b,front⟩
    · exact ⟨[],encode_injective same,rfl⟩
    · rw [encode_cons] at same
      rcases List.append_eq_append_iff.mp same with ⟨middle,before,after⟩ | ⟨middle,before,after⟩
      · obtain ⟨q,rfl,rfl⟩ := ih after
        exact ⟨c :: q,rfl,by rw [encode_cons,before]⟩
      · -- The first byte of `a` cannot be a later byte of `c`.
        rcases middle with _ | ⟨first,middle⟩
        · obtain rfl := encode_injective after.symm
          exact ⟨[c],rfl,by simpa using before.symm⟩
        · rw [encode_cons,utf8EncodeChar_of_lt ascii] at after
          obtain ⟨rfl,-⟩ : UInt8.ofNat a.toNat = first ∧ _ := List.cons.inj after
          have whole : c = a := utf8EncodeChar_of_mem ascii (by rw [before]; simp)
          rw [whole,utf8EncodeChar_of_lt ascii] at before
          simp at before

/-! ### Decoding -/

theorem bind_ok_eq_map (result : Except Defect (List Char)) (c : Char) :
    (do let cs ← result; .ok (c :: cs) : Except Defect (List Char)) = result.map (c :: ·) := by
  cases result <;> rfl

theorem isContinuation_iff {b : UInt8} :
    isContinuation b = true ↔ 0x80 ≤ b.toNat ∧ b.toNat < 0xC0 := by
  simp [isContinuation,UInt8.le_iff_toNat_le,UInt8.lt_iff_toNat_lt]

theorem mayFollow_iff {a b : UInt8} : mayFollow a b = true ↔
    0x80 ≤ b.toNat ∧ b.toNat < 0xC0 ∧ (a.toNat = 0xE0 → 0xA0 ≤ b.toNat) ∧
      (a.toNat = 0xED → b.toNat < 0xA0) ∧ (a.toNat = 0xF0 → 0x90 ≤ b.toNat) ∧
      (a.toNat = 0xF4 → b.toNat < 0x90) := by
  simp only [mayFollow,isContinuation,← UInt8.toNat_inj,UInt8.le_iff_toNat_le,
    UInt8.lt_iff_toNat_lt,UInt8.reduceToNat]
  repeat' split
  all_goals simp only [Bool.and_eq_true,decide_eq_true_eq]; omega

section

variable {index : Nat} {a b c d : UInt8} {rest : Bytes}

theorem decodeFrom_one (low : a.toNat < 0x80) :
    decodeFrom index (a :: rest) =
      (decodeFrom (index + 1) rest).map (Char.ofNat a.toNat :: ·) := by
  have ascii : a < 0x80 := UInt8.lt_iff_toNat_lt.mpr low
  rw [decodeFrom.eq_def]
  simp only [ascii,if_true,bind_ok_eq_map]

theorem isLead_of_le (lead : 0xC2 ≤ a.toNat ∧ a.toNat < 0xF5) :
    ¬a < 0x80 ∧ ¬(a < 0xC2 ∨ 0xF5 ≤ a) := by
  simp only [UInt8.lt_iff_toNat_lt,UInt8.le_iff_toNat_le,UInt8.reduceToNat]
  omega

theorem decodeFrom_two (lead : 0xC2 ≤ a.toNat ∧ a.toNat < 0xE0) (second : mayFollow a b = true) :
    decodeFrom index (a :: b :: rest) =
      (decodeFrom (index + 2) rest).map (character [a.toNat % 32,payload b] :: ·) := by
  obtain ⟨long,valid⟩ := isLead_of_le (a := a) (by omega)
  have two : a < 0xE0 := UInt8.lt_iff_toNat_lt.mpr lead.2
  rw [decodeFrom.eq_def]
  simp only [long,valid,second,two,if_false,if_true,not_true,bind_ok_eq_map]

theorem decodeFrom_three (lead : 0xE0 ≤ a.toNat ∧ a.toNat < 0xF0) (second : mayFollow a b = true)
    (third : isContinuation c = true) :
    decodeFrom index (a :: b :: c :: rest) =
      (decodeFrom (index + 3) rest).map
        (character [a.toNat % 16,payload b,payload c] :: ·) := by
  obtain ⟨long,valid⟩ := isLead_of_le (a := a) (by omega)
  have notTwo : ¬a < 0xE0 := fun below => Nat.not_lt.mpr lead.1 (UInt8.lt_iff_toNat_lt.mp below)
  have three : a < 0xF0 := UInt8.lt_iff_toNat_lt.mpr lead.2
  rw [decodeFrom.eq_def]
  simp only [long,valid,second,third,notTwo,three,if_false,if_true,not_true,bind_ok_eq_map]

theorem decodeFrom_four (lead : 0xF0 ≤ a.toNat ∧ a.toNat < 0xF5) (second : mayFollow a b = true)
    (third : isContinuation c = true) (fourth : isContinuation d = true) :
    decodeFrom index (a :: b :: c :: d :: rest) =
      (decodeFrom (index + 4) rest).map
        (character [a.toNat % 8,payload b,payload c,payload d] :: ·) := by
  obtain ⟨long,valid⟩ := isLead_of_le (a := a) (by omega)
  have notThree : ¬a < 0xF0 := fun below => Nat.not_lt.mpr lead.1 (UInt8.lt_iff_toNat_lt.mp below)
  have notTwo : ¬a < 0xE0 := fun below =>
    Nat.not_lt.mpr (Nat.le_trans (by decide) lead.1) (UInt8.lt_iff_toNat_lt.mp below)
  rw [decodeFrom.eq_def]
  simp only [long,valid,second,third,fourth,notTwo,notThree,if_false,not_true,bind_ok_eq_map]

end

theorem decodeFrom_utf8EncodeChar (c : Char) (index : Nat) (rest : Bytes) :
    decodeFrom index (String.utf8EncodeChar c ++ rest) =
      (decodeFrom (index + (String.utf8EncodeChar c).length) rest).map (c :: ·) := by
  have isScalar : c.val.toNat < 0xD800 ∨ 0xDFFF < c.val.toNat ∧ c.val.toNat < 0x110000 := c.valid
  have byte {n : Nat} (small : n < 256) : (UInt8.ofNat n).toNat = n := by
    rw [UInt8.toNat_ofNat']
    exact Nat.mod_eq_of_lt small
  have whole {n : Nat} (same : n = c.val.toNat) : Char.ofNat n = c := by
    rw [same]
    exact Char.ofNat_toNat c
  rw [String.utf8EncodeChar.eq_1]
  generalize c.val.toNat = v at *
  have tail (n : Nat) : isContinuation (UInt8.ofNat (n % 64 + 128)) = true := by
    rw [isContinuation_iff,byte (by omega)]
    omega
  split
  next ascii =>
    rw [List.singleton_append,decodeFrom_one (by rw [byte] <;> omega),byte (by omega),whole rfl]
    rfl
  next =>
    split
    next =>
      simp only [List.cons_append,List.nil_append]
      rw [decodeFrom_two]
      · simp only [character,payload,List.foldl]
        rw [byte (by omega),byte (by omega),whole (by omega)]
        rfl
      · rw [byte (by omega)]
        omega
      · rw [mayFollow_iff,byte (by omega),byte (by omega)]
        omega
    next =>
      split
      next =>
        simp only [List.cons_append,List.nil_append]
        rw [decodeFrom_three]
        · simp only [character,payload,List.foldl]
          rw [byte (by omega),byte (by omega),byte (by omega),whole (by omega)]
          rfl
        · rw [byte (by omega)]
          omega
        · rw [mayFollow_iff,byte (by omega),byte (by omega)]
          omega
        · exact tail _
      next =>
        simp only [List.cons_append,List.nil_append]
        rw [decodeFrom_four]
        · simp only [character,payload,List.foldl]
          rw [byte (by omega),byte (by omega),byte (by omega),byte (by omega),whole (by omega)]
          rfl
        · rw [byte (by omega)]
          omega
        · rw [mayFollow_iff,byte (by omega),byte (by omega)]
          omega
        · exact tail _
        · exact tail _

/-- Texts survive: the bytes of a text are decoded as that text. -/
theorem decode_encode (s : List Char) : decode (encode s) = .ok s := by
  suffices ∀ index, decodeFrom index (encode s) = .ok s from this 0
  induction s with
  | nil =>
    intro index
    rw [encode_nil,decodeFrom.eq_def]
  | cons c s ih =>
    intro index
    rw [encode_cons,decodeFrom_utf8EncodeChar,ih]
    rfl

end ViewTemplates.Utf8
