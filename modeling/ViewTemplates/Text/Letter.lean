import ViewTemplates.Text.LetterTable
import ViewTemplates.Text.CaseTable
import ViewTemplates.Text.PrintTable

/-! Letters, digits and letter case over all characters. ASCII is decided by its own ranges, the
rest by table. -/
namespace ViewTemplates.Text

def inRanges (ranges : List (Nat × Nat)) (n : Nat) : Bool :=
  ranges.any fun r => r.1 ≤ n && n ≤ r.2

def inRows (rows : List (Nat × Nat × Nat)) (n : Nat) : Bool :=
  rows.any fun r => r.1 ≤ n && n ≤ r.2.1 && (n - r.1) % r.2.2 == 0

def isAsciiUpper (c : Char) : Bool := 'A' ≤ c && c ≤ 'Z'

def isAsciiLower (c : Char) : Bool := 'a' ≤ c && c ≤ 'z'

def isAsciiDigit (c : Char) : Bool := '0' ≤ c && c ≤ '9'

def isAsciiAlphanumeric (c : Char) : Bool := isAsciiUpper c || isAsciiLower c || isAsciiDigit c

def isAscii (c : Char) : Bool := c.toNat < 0x80

theorem isAsciiUpper_iff {c : Char} : isAsciiUpper c = true ↔ 65 ≤ c.toNat ∧ c.toNat ≤ 90 := by
  simp [isAsciiUpper,Char.le_def,UInt32.le_iff_toNat_le]

theorem isAsciiLower_iff {c : Char} : isAsciiLower c = true ↔ 97 ≤ c.toNat ∧ c.toNat ≤ 122 := by
  simp [isAsciiLower,Char.le_def,UInt32.le_iff_toNat_le]

theorem isAsciiDigit_iff {c : Char} : isAsciiDigit c = true ↔ 48 ≤ c.toNat ∧ c.toNat ≤ 57 := by
  simp [isAsciiDigit,Char.le_def,UInt32.le_iff_toNat_le]

theorem isAscii_of_isAsciiAlphanumeric {c : Char} (alphanumeric : isAsciiAlphanumeric c = true) :
    isAscii c = true := by
  simp only [isAsciiAlphanumeric,Bool.or_eq_true,isAsciiUpper_iff,isAsciiLower_iff,
    isAsciiDigit_iff] at alphanumeric
  simp only [isAscii,decide_eq_true_eq]
  omega

def isAlphanumeric (c : Char) : Bool :=
  if isAscii c then isAsciiAlphanumeric c else inRanges alphanumericRanges c.toNat

def isLower (c : Char) : Bool :=
  if isAscii c then isAsciiLower c else inRows lowercaseRows c.toNat

def isUpper (c : Char) : Bool :=
  if isAscii c then isAsciiUpper c else inRows uppercaseRows c.toNat

def shifted (rows : List (Nat × Nat × Nat × Int)) (c : Char) : Char :=
  match rows.find? fun r => inRows [(r.1,r.2.1,r.2.2.1)] c.toNat with
  | some r => Char.ofNat ((c.toNat : Int) + r.2.2.2).toNat
  | none => c

def longForm (rows : List (Nat × List Nat)) (c : Char) : Option (List Char) :=
  (rows.lookup c.toNat).map (·.map Char.ofNat)

/-- The lower case of one character on its own. -/
def lowerOf (c : Char) : List Char :=
  if isAscii c then [if isAsciiUpper c then Char.ofNat (c.toNat + 32) else c]
  else (longForm toLowerLong c).getD [shifted toLowerRows c]

theorem toNat_ofNat_of_isValidChar {n : Nat} (valid : n.isValidChar) :
    (Char.ofNat n).toNat = n := by
  rw [Char.ofNat,dif_pos valid]
  rfl

/-- Letters and digits of ASCII stay so in lower case, and no letter is a capital then. -/
theorem lowerOf_of_isAsciiAlphanumeric {c : Char} (alphanumeric : isAsciiAlphanumeric c = true) :
    ∃ d, lowerOf c = [d] ∧ (isAsciiLower d = true ∨ isAsciiDigit d = true) := by
  refine ⟨_,by rw [lowerOf,if_pos (isAscii_of_isAsciiAlphanumeric alphanumeric)],?_⟩
  split
  next upper =>
    rw [isAsciiUpper_iff] at upper
    left
    rw [isAsciiLower_iff,toNat_ofNat_of_isValidChar (.inl (by omega))]
    omega
  next notUpper => simpa [isAsciiAlphanumeric,notUpper] using alphanumeric

def upperOf (c : Char) : List Char :=
  if isAscii c then [if isAsciiLower c then Char.ofNat (c.toNat - 32) else c]
  else (longForm toUpperLong c).getD [shifted toUpperRows c]

def toUpper (s : List Char) : List Char := s.flatMap upperOf

/-- Whether a character has letter case, being a letter of either case or a titlecase one. -/
def isCased (c : Char) : Bool :=
  isLower c || isUpper c || (!isAscii c && inRanges titlecaseRanges c.toNat)

/-- Whether a character is passed over when the letters beside it are looked for. -/
def isCaseIgnorable (c : Char) : Bool :=
  if isAscii c then ['\'','.',':','^','\x60'].contains c
  else inRanges caseIgnorableRanges c.toNat

def endsInCased (s : List Char) : Bool :=
  ((s.dropWhile isCaseIgnorable).head?.map isCased).getD false

/-- The lower case of a text read from the left, `before` being what was read, last first. A
capital sigma that ends a word becomes the final form. -/
def toLowerAfter (before : List Char) : List Char → List Char
  | [] => []
  | c :: rest =>
    (if c.toNat = 0x3A3 then
      [Char.ofNat (if endsInCased before && !endsInCased rest then 0x3C2 else 0x3C3)]
    else lowerOf c) ++ toLowerAfter (c :: before) rest

def toLower (s : List Char) : List Char := toLowerAfter [] s

end ViewTemplates.Text
