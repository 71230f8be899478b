import Letterbox.Text.Utf8

namespace Letterbox.Mime

structure Token where
  body : Bytes := []
  gap : Bytes := []
  deriving DecidableEq, Repr

namespace Token

def empty : Token := {}

def isOpen (t : Token) : Bool :=
  !t.body.isEmpty

def push (t : Token) (b : UInt8) : Token :=
  { body := b :: (t.gap ++ t.body) }

def skip (t : Token) (b : UInt8) : Token :=
  if t.isOpen then { t with gap := b :: t.gap } else t

def bytes (t : Token) : Bytes :=
  t.body.reverse

def text (t : Token) : List Char :=
  Text.decode t.bytes

end Token

def isFold (b : UInt8) : Bool :=
  b == 32 || b == 9

def isSpaceByte (b : UInt8) : Bool :=
  b == 32 || b == 9 || b == 10 || b == 12 || b == 13

def isDigitByte (b : UInt8) : Bool :=
  48 ≤ b && b ≤ 57

def isUpperByte (b : UInt8) : Bool :=
  65 ≤ b && b ≤ 90

def lowerByte (b : UInt8) : UInt8 :=
  if isUpperByte b then b + 32 else b

def ascii (s : String) : Bytes :=
  Text.encode s.toList

def hexByte? (b : UInt8) : Option UInt8 :=
  if 48 ≤ b && b ≤ 57 then some (b - 48)
  else if 65 ≤ b && b ≤ 70 then some (b - 55)
  else if 97 ≤ b && b ≤ 102 then some (b - 87)
  else none

def dropLeading? : Bytes → Bytes → Option Bytes
  | [], s => some s
  | _ :: _, [] => none
  | a :: lead, b :: s => if a == b then dropLeading? lead s else none

end Letterbox.Mime
