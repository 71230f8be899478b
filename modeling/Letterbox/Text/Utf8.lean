namespace Letterbox

abbrev Bytes := List UInt8

namespace Text

def isTail (b : UInt8) : Bool :=
  0x80 ≤ b && b ≤ 0xBF

def tailBits (b : UInt8) : Nat :=
  b.toNat % 64

def secondRange (b : UInt8) : UInt8 × UInt8 :=
  if b == 0xE0 then (0xA0, 0xBF)
  else if b == 0xED then (0x80, 0x9F)
  else if b == 0xF0 then (0x90, 0xBF)
  else if b == 0xF4 then (0x80, 0x8F)
  else (0x80, 0xBF)

def fitsSecond (b c : UInt8) : Bool :=
  (secondRange b).1 ≤ c && c ≤ (secondRange b).2

def readChar (b : UInt8) (rest : Bytes) : Option Char × Nat :=
  if b < 0x80 then (some (Char.ofNat b.toNat), 0)
  else if b < 0xC2 then (none, 0)
  else if b < 0xE0 then
    match rest with
    | c :: _ =>
      if isTail c then (some (Char.ofNat (b.toNat % 32 * 64 + tailBits c)), 1) else (none, 0)
    | [] => (none, 0)
  else if b < 0xF0 then
    match rest with
    | c :: more =>
      if !fitsSecond b c then (none, 0)
      else match more with
        | d :: _ =>
          if isTail d then
            (some (Char.ofNat (b.toNat % 16 * 4096 + tailBits c * 64 + tailBits d)), 2)
          else (none, 1)
        | [] => (none, 1)
    | [] => (none, 0)
  else if b < 0xF5 then
    match rest with
    | c :: more =>
      if !fitsSecond b c then (none, 0)
      else match more with
        | d :: more =>
          if !isTail d then (none, 1)
          else match more with
            | e :: _ =>
              if isTail e then
                (some (Char.ofNat (b.toNat % 8 * 262144 + tailBits c * 4096 + tailBits d * 64 +
                  tailBits e)), 3)
              else (none, 2)
            | [] => (none, 2)
        | [] => (none, 1)
    | [] => (none, 0)
  else (none, 0)

def readChars : Bytes → List (Option Char)
  | [] => []
  | b :: rest =>
    let r := readChar b rest
    r.1 :: readChars (rest.drop r.2)
  termination_by s => s.length
  decreasing_by simp only [List.length_drop, List.length_cons]; omega

def decode (s : Bytes) : List Char :=
  (readChars s).map fun c => c.getD '\uFFFD'

def decode? (s : Bytes) : Option (List Char) :=
  (readChars s).mapM id

def encode (s : List Char) : Bytes :=
  s.flatMap String.utf8EncodeChar

end Text

end Letterbox
