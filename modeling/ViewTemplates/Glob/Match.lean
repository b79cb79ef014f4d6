import ViewTemplates.Glob.Basic

/-! Matching paths against globs, byte by byte. -/
namespace ViewTemplates.Glob

abbrev Bytes := Utf8.Bytes

def slash : UInt8 := 0x2F

def afterSomeSlash (next : Bytes → Bool) : Bytes → Bool
  | [] => false
  | b :: rest => (b == slash && next rest) || afterSomeSlash next rest

def afterNoSlash (next : Bytes → Bool) : Bytes → Bool
  | [] => next []
  | b :: rest => next (b :: rest) || (b != slash && afterNoSlash next rest)

def afterLiteral (next : Bytes → Bool) : Bytes → Bytes → Bool
  | [], s => next s
  | b :: bs, c :: s => b == c && afterLiteral next bs s
  | _ :: _, [] => false

def anySuffix (next : Bytes → Bool) : Bytes → Bool
  | [] => next []
  | b :: rest => next (b :: rest) || anySuffix next rest

mutual

/-- Alternatives that match only the empty text by having no piece do not count. -/
def Token.isVacuous : Token → Bool
  | .alternatives branches => allVacuous branches
  | _ => false

def isVacuousBranch : List Token → Bool
  | [] => true
  | token :: rest => token.isVacuous && isVacuousBranch rest

def allVacuous : List (List Token) → Bool
  | [] => true
  | branch :: rest => isVacuousBranch branch && allVacuous rest

end

mutual

/-- Whether a piece matches a beginning of the text such that `next` accepts the rest. -/
def Token.accepts (next : Bytes → Bool) : Token → Bytes → Bool
  | .literal c, s => afterLiteral next (String.utf8EncodeChar c) s
  | .any, s => match s with
    | [] => false
    | b :: rest => b != slash && next rest
  | .star, s => afterNoSlash next s
  | .leading, s => next s || afterSomeSlash next s
  | .trailing, s => match s with
    | [] => false
    | b :: rest => b == slash && anySuffix next rest
  | .middle, s => match s with
    | [] => false
    | b :: rest => b == slash && (next rest || afterSomeSlash next rest)
  | .byteClass negated ranges, s => match s with
    | [] => false
    | b :: rest => (ranges.any fun r => r.1 ≤ b && b ≤ r.2) != negated && next rest
  | .alternatives branches, s => if allVacuous branches then next s else someAccepts next branches s

def allAccept (next : Bytes → Bool) : List Token → Bytes → Bool
  | [], s => next s
  | token :: rest, s => token.accepts (allAccept next rest) s

def someAccepts (next : Bytes → Bool) : List (List Token) → Bytes → Bool
  | [], _ => false
  | branch :: rest, s =>
    (!isVacuousBranch branch && allAccept next branch s) || someAccepts next rest s

end

/-- Whether a path matches. Two stars alone match every path. -/
def isMatch (tokens : List Token) (path : List Char) : Bool :=
  match tokens with
  | [.leading] => true
  | tokens => allAccept List.isEmpty tokens (Utf8.encode path)

end ViewTemplates.Glob
