import ViewTemplates.Decimal.Shortest

/-! Writing a binary64 number: which decimals are positional, and how the parts are spelled.
One record per output format; the digits are the same in all of them up to ties. -/
namespace ViewTemplates

structure FloatLayout where
  /-- The least leading exponent written positionally; `none` for no bound. -/
  positionalFrom : Option Int
  /-- The greatest leading exponent written positionally; `none` for no bound. -/
  positionalTo : Option Int
  /-- Whether a whole number written positionally ends in `.0`. -/
  keepPoint : Bool
  /-- Whether a positive exponent is written with `+`. -/
  plus : Bool
  tie : Tie
  nan : String
  infinity : String
deriving Repr

namespace FloatLayout

/-- JSON text: positional from `10 ^ (-5)` up to below `10 ^ 16`, an exponent with its sign. -/
def json : FloatLayout := ⟨some (-5),some 15,true,true,.toEven,"null","null"⟩

/-- YAML text: as JSON text, with no `+` in the exponent. -/
def yaml : FloatLayout := { json with plus := false, nan := ".nan", infinity := ".inf" }

/-- Positional in full, and no point in a whole number. -/
def plain : FloatLayout := ⟨none,none,false,false,.up,"NaN","inf"⟩

/-- Positional in full, and always with a point. -/
def pointed : FloatLayout := { plain with keepPoint := true }

/-- As an item of a printed list or map: positional from `10 ^ (-4)` up to below `10 ^ 16`. -/
def nested : FloatLayout := ⟨some (-4),some 15,true,false,.up,"NaN","inf"⟩

def isPositional (layout : FloatLayout) (leading : Int) : Bool :=
  layout.positionalFrom.all (· ≤ leading) && layout.positionalTo.all (leading ≤ ·)

private def zeros (n : Nat) : List Char := List.replicate n '0'

def positional (layout : FloatLayout) (d : Decimal) : List Char :=
  let ds := Nat.toDigits 10 d.digits
  let whole := (ds.length : Int) + d.exponent
  if 0 ≤ d.exponent then
    ds ++ zeros d.exponent.toNat ++ if layout.keepPoint then ['.','0'] else []
  else if 0 < whole then ds.take whole.toNat ++ '.' :: ds.drop whole.toNat
  else '0' :: '.' :: zeros (-whole).toNat ++ ds

def scientific (layout : FloatLayout) (d : Decimal) : List Char :=
  let ds := Nat.toDigits 10 d.digits
  let leading := (ds.length : Int) - 1 + d.exponent
  let fraction := if ds.length ≤ 1 then [] else '.' :: ds.drop 1
  let sign := if leading < 0 then ['-'] else if layout.plus then ['+'] else []
  ds.take 1 ++ fraction ++ 'e' :: sign ++ Nat.toDigits 10 leading.natAbs

def magnitude (layout : FloatLayout) (x : Binary64) : List Char :=
  if x.isZero then layout.positional ⟨0,0⟩
  else
    let d := Decimal.shortest layout.tie x
    if layout.isPositional (Decimal.digitCount d.digits - 1 + d.exponent) then layout.positional d
    else layout.scientific d

def text (layout : FloatLayout) (x : Binary64) : List Char :=
  if x.isNaN then layout.nan.toList
  else
    let sign := if x.isNegative then ['-'] else []
    sign ++ if x.isFinite then layout.magnitude x else layout.infinity.toList

def IsMark (c : Char) : Prop := c.isDigit = true ∨ c ∈ ['.','-','+','e']

instance (c : Char) : Decidable (IsMark c) := inferInstanceAs (Decidable (_ ∨ _))

theorem isMark_of_mem_toDigits {n : Nat} {c : Char} (member : c ∈ Nat.toDigits 10 n) : IsMark c :=
  .inl (Nat.isDigit_of_mem_toDigits (by decide) (by decide) member)

private theorem isMark_of_mem_zeros {n : Nat} {c : Char} (member : c ∈ zeros n) : IsMark c := by
  obtain rfl := List.eq_of_mem_replicate member
  exact .inl (by decide)

theorem isMark_of_mem_positional {layout : FloatLayout} {d : Decimal} {c : Char}
    (member : c ∈ layout.positional d) : IsMark c := by
  have point : IsMark '.' := .inr (by decide)
  have zero : IsMark '0' := .inl (by decide)
  simp only [positional] at member
  split at member
  · rcases List.mem_append.mp member with digits | pointed
    · rcases List.mem_append.mp digits with inDigits | inZeros
      · exact isMark_of_mem_toDigits inDigits
      · exact isMark_of_mem_zeros inZeros
    · split at pointed
      · simp only [List.mem_cons,List.not_mem_nil,or_false] at pointed
        rcases pointed with rfl | rfl
        · exact point
        · exact zero
      · contradiction
  · split at member
    · rcases List.mem_append.mp member with whole | after
      · exact isMark_of_mem_toDigits (List.mem_of_mem_take whole)
      · rcases List.mem_cons.mp after with rfl | fraction
        · exact point
        · exact isMark_of_mem_toDigits (List.mem_of_mem_drop fraction)
    · simp only [List.cons_append,List.mem_cons,List.mem_append] at member
      rcases member with rfl | rfl | inZeros | inDigits
      · exact zero
      · exact point
      · exact isMark_of_mem_zeros inZeros
      · exact isMark_of_mem_toDigits inDigits

theorem isMark_of_mem_scientific {layout : FloatLayout} {d : Decimal} {c : Char}
    (member : c ∈ layout.scientific d) : IsMark c := by
  simp only [scientific,List.append_assoc,List.mem_append,List.mem_cons] at member
  rcases member with first | fraction | (rfl | sign) | exponent
  · exact isMark_of_mem_toDigits (List.mem_of_mem_take first)
  · split at fraction
    · contradiction
    · rcases List.mem_cons.mp fraction with rfl | later
      · exact .inr (by decide)
      · exact isMark_of_mem_toDigits (List.mem_of_mem_drop later)
  · exact .inr (by decide)
  · split at sign
    · exact .inr (by simp_all)
    · split at sign
      · exact .inr (by simp_all)
      · contradiction
  · exact isMark_of_mem_toDigits exponent

/-- A number is written in the characters of decimals, or by its name if it is none. -/
theorem of_mem_text {layout : FloatLayout} {x : Binary64} {c : Char}
    (member : c ∈ layout.text x) :
    IsMark c ∨ c ∈ layout.nan.toList ∨ c ∈ layout.infinity.toList := by
  simp only [text] at member
  split at member
  · exact .inr (.inl member)
  · rcases List.mem_append.mp member with sign | inside
    · split at sign
      · exact .inl (.inr (by simp_all))
      · contradiction
    · split at inside
      · simp only [magnitude] at inside
        split at inside
        · exact .inl (isMark_of_mem_positional inside)
        · split at inside
          · exact .inl (isMark_of_mem_positional inside)
          · exact .inl (isMark_of_mem_scientific inside)
      · exact .inr (.inr inside)

end FloatLayout

end ViewTemplates
