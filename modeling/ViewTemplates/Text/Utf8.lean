/-! UTF-8: the bytes of a text, and the text of bytes or the first place where they are none. -/
namespace ViewTemplates.Utf8

abbrev Bytes := List UInt8

def encode (s : List Char) : Bytes := s.flatMap String.utf8EncodeChar

/-- Why bytes are not UTF-8: a sequence that cannot begin a character, or one that the end of the
bytes cuts short. The index is that of its first byte. -/
inductive Defect
  | invalid (length index : Nat)
  | incomplete (index : Nat)
deriving DecidableEq, Repr

def Defect.message : Defect → String
  | .invalid length index =>
    "invalid utf-8 sequence of " ++ toString length ++ " bytes from index " ++ toString index
  | .incomplete index => "incomplete utf-8 byte sequence from index " ++ toString index

def isContinuation (b : UInt8) : Bool := 0x80 ≤ b && b < 0xC0

/-- The bytes that may follow the first byte of a longer sequence: none that would spell a shorter
character, a surrogate, or one beyond the last. -/
def mayFollow (first second : UInt8) : Bool :=
  if first = 0xE0 then 0xA0 ≤ second && second < 0xC0
  else if first = 0xED then 0x80 ≤ second && second < 0xA0
  else if first = 0xF0 then 0x90 ≤ second && second < 0xC0
  else if first = 0xF4 then 0x80 ≤ second && second < 0x90
  else isContinuation second

/-- The character of payload bits collected six at a time. -/
def character (bits : List Nat) : Char := Char.ofNat (bits.foldl (fun n b => n * 64 + b) 0)

def payload (b : UInt8) : Nat := b.toNat % 64

def decodeFrom (index : Nat) : Bytes → Except Defect (List Char)
  | [] => .ok []
  | a :: rest =>
    if a < 0x80 then do
      let cs ← decodeFrom (index + 1) rest
      .ok (Char.ofNat a.toNat :: cs)
    else if a < 0xC2 ∨ 0xF5 ≤ a then .error (.invalid 1 index)
    else match rest with
      | [] => .error (.incomplete index)
      | b :: rest =>
        if ¬mayFollow a b then .error (.invalid 1 index)
        else if a < 0xE0 then do
          let cs ← decodeFrom (index + 2) rest
          .ok (character [a.toNat % 32,payload b] :: cs)
        else match rest with
          | [] => .error (.incomplete index)
          | c :: rest =>
            if ¬isContinuation c then .error (.invalid 2 index)
            else if a < 0xF0 then do
              let cs ← decodeFrom (index + 3) rest
              .ok (character [a.toNat % 16,payload b,payload c] :: cs)
            else match rest with
              | [] => .error (.incomplete index)
              | d :: rest =>
                if ¬isContinuation d then .error (.invalid 3 index)
                else do
                  let cs ← decodeFrom (index + 4) rest
                  .ok (character [a.toNat % 8,payload b,payload c,payload d] :: cs)

def decode (bytes : Bytes) : Except Defect (List Char) := decodeFrom 0 bytes

end ViewTemplates.Utf8
