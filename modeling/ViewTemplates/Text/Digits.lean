import ViewTemplates.Text.Letter

/-! Reading numbers from their digits. -/
namespace ViewTemplates.Text

def digitValue? (base : Nat) (c : Char) : Option Nat :=
  let value :=
    if isAsciiDigit c then some (c.toNat - 48)
    else if 'a' ≤ c ∧ c ≤ 'f' then some (c.toNat - 87)
    else if 'A' ≤ c ∧ c ≤ 'F' then some (c.toNat - 55)
    else none
  value.filter (· < base)

def natural? (base : Nat) (s : List Char) : Option Nat :=
  if s.isEmpty then none
  else s.foldlM (fun n c => (digitValue? base c).map (n * base + ·)) 0

/-- The digits and the exponent of a decimal with at least one digit around its point. -/
def decimal? (s : List Char) : Option (Nat × Int) :=
  let whole := s.takeWhile isAsciiDigit
  let rest := s.dropWhile isAsciiDigit
  let (fraction,rest) := match rest with
    | '.' :: rest => (rest.takeWhile isAsciiDigit,rest.dropWhile isAsciiDigit)
    | rest => ([],rest)
  if (whole ++ fraction).isEmpty then none
  else do
    let digits ← natural? 10 (whole ++ fraction)
    let places : Int := fraction.length
    match rest with
    | [] => some (digits,-places)
    | c :: rest =>
      if c = 'e' ∨ c = 'E' then
        match rest with
        | '-' :: rest => (natural? 10 rest).map fun n => (digits,-(n : Int) - places)
        | '+' :: rest => (natural? 10 rest).map fun n => (digits,(n : Int) - places)
        | rest => (natural? 10 rest).map fun n => (digits,(n : Int) - places)
      else none

end ViewTemplates.Text
