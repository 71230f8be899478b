import Letterbox.Mime.Base64
import Letterbox.Mime.Units

namespace Letterbox.Mime.Utf7

def isDigit (b : UInt8) : Bool :=
  (Base64.digit? b).isSome

def afterStretch (s : Bytes) : Bytes :=
  match s.dropWhile isDigit with
  | 45 :: rest => rest
  | rest => rest

def stretchBytes (s : Bytes) : Bytes :=
  let padded := s ++ (if s.length % 4 == 0 then [] else [61])
  (Base64.decode false {} [] padded).getD []

def stretchChars (s : Bytes) : List Char :=
  if s.isEmpty then ['+'] else Units.joined (Units.ofBytes true (stretchBytes s))

def readFrom : Nat → Bytes → List Char
  | 0, _ => []
  | _ + 1, [] => []
  | fuel + 1, b :: rest =>
    if b == 43 then
      stretchChars (rest.takeWhile isDigit) ++ readFrom fuel (afterStretch rest)
    else Char.ofNat b.toNat :: readFrom fuel rest

def read (s : Bytes) : List Char :=
  readFrom (s.length + 1) s

end Letterbox.Mime.Utf7
