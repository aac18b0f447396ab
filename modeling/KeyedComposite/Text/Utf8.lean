/-! # UTF-8 byte strings

`decodeFirst` reads the character that a well-formed UTF-8 sequence at the start of a byte
string encodes: the shortest form only, no surrogates, nothing above U+10FFFF. Byte strings
that need not be well formed are read with `decodeLossy`, which puts U+FFFD for each byte
that starts no well-formed sequence.
-/
namespace KeyedComposite.Utf8

def within (lo hi : UInt8) (b : UInt8) : Bool := lo ≤ b && b ≤ hi

/-- The character that a well-formed UTF-8 sequence at the start of `bs` encodes, with
the sequence's length. -/
def decodeFirst : List UInt8 → Option (Char × Nat)
  | b0 :: rest =>
    let n0 := b0.toNat
    if n0 < 0x80 then some (Char.ofNat n0, 1)
    else if 0xC2 ≤ n0 ∧ n0 ≤ 0xDF then
      match rest with
      | b1 :: _ =>
        if within 0x80 0xBF b1 then some (Char.ofNat ((n0 % 32) * 64 + b1.toNat % 64), 2)
        else none
      | _ => none
    else if 0xE0 ≤ n0 ∧ n0 ≤ 0xEF then
      let (lo, hi) : UInt8 × UInt8 :=
        if n0 = 0xE0 then (0xA0, 0xBF) else if n0 = 0xED then (0x80, 0x9F) else (0x80, 0xBF)
      match rest with
      | b1 :: b2 :: _ =>
        if within lo hi b1 && within 0x80 0xBF b2 then
          some (Char.ofNat ((n0 % 16) * 4096 + (b1.toNat % 64) * 64 + b2.toNat % 64), 3)
        else none
      | _ => none
    else if 0xF0 ≤ n0 ∧ n0 ≤ 0xF4 then
      let (lo, hi) : UInt8 × UInt8 :=
        if n0 = 0xF0 then (0x90, 0xBF) else if n0 = 0xF4 then (0x80, 0x8F) else (0x80, 0xBF)
      match rest with
      | b1 :: b2 :: b3 :: _ =>
        if within lo hi b1 && within 0x80 0xBF b2 && within 0x80 0xBF b3 then
          some (Char.ofNat ((n0 % 8) * 262144 + (b1.toNat % 64) * 4096 +
            (b2.toNat % 64) * 64 + b3.toNat % 64), 4)
        else none
      | _ => none
    else none
  | [] => none

/-- The text of a byte string, U+FFFD standing for each byte that starts no well-formed
sequence; `fuel` bounds the characters read. -/
def decodeChars : Nat → List UInt8 → List Char
  | 0, _ => []
  | _, [] => []
  | fuel + 1, b :: rest =>
    match decodeFirst (b :: rest) with
    | some (c, n) => c :: decodeChars fuel ((b :: rest).drop n)
    | none => '\uFFFD' :: decodeChars fuel rest

def decodeLossy (bs : List UInt8) : String := String.ofList (decodeChars bs.length bs)

def decodeStrict : Nat → List UInt8 → Option (List Char)
  | 0, _ => some []
  | _, [] => some []
  | fuel + 1, b :: rest =>
    match decodeFirst (b :: rest) with
    | some (c, n) => (decodeStrict fuel ((b :: rest).drop n)).map (c :: ·)
    | none => none

def decode? (bs : List UInt8) : Option (List Char) := decodeStrict bs.length bs

def encode (s : String) : List UInt8 := s.toList.flatMap String.utf8EncodeChar

end KeyedComposite.Utf8
