import Letterbox.Mime.Token

namespace Letterbox.Mime.Base64

def digit? (b : UInt8) : Option Nat :=
  if 65 ≤ b && b ≤ 90 then some (b.toNat - 65)
  else if 97 ≤ b && b ≤ 122 then some (b.toNat - 71)
  else if 48 ≤ b && b ≤ 57 then some (b.toNat + 4)
  else if b == 43 then some 62
  else if b == 47 then some 63
  else none

structure Group where
  count : Nat := 0
  bits : Nat := 0
  deriving DecidableEq, Repr

def Group.add (g : Group) (d : Nat) : Group :=
  { count := g.count + 1, bits := g.bits * 64 + d }

def byteOf (n : Nat) : UInt8 :=
  UInt8.ofNat n

def Group.full (g : Group) : Bytes :=
  [byteOf g.bits, byteOf (g.bits / 256), byteOf (g.bits / 65536)]

def Group.closed (g : Group) : Bytes :=
  match g.count with
  | 0 => []
  | 1 => [byteOf (g.bits * 4)]
  | 2 => [byteOf (g.bits / 16)]
  | _ => [byteOf (g.bits / 4), byteOf (g.bits / 1024)]

def step (g : Group) (out : Bytes) (d : Nat) : Group × Bytes :=
  let g := g.add d
  if g.count == 4 then ({}, g.full ++ out) else (g, out)

def decode (dashes : Bool) (g : Group) (out : Bytes) : Bytes → Option Bytes
  | [] => some out.reverse
  | b :: rest =>
    match digit? b with
    | some d => let r := step g out d; decode dashes r.1 r.2 rest
    | none =>
      if b == 61 then decode dashes {} (g.closed ++ out) rest
      else if isFold b || b == 13 || b == 10 then decode dashes g out rest
      else if b == 45 && dashes then decode dashes g out rest
      else none

def readWord (g : Group) (out : Bytes) : Bytes → Option (Bytes × Bytes)
  | [] => none
  | b :: rest =>
    match digit? b with
    | some d => let r := step g out d; readWord r.1 r.2 rest
    | none =>
      if b == 61 then readWord {} (g.closed ++ out) rest
      else if b == 63 then
        match rest with
        | 61 :: rest => some (out.reverse, rest)
        | _ => none
      else if isFold b || b == 13 || b == 10 then readWord g out rest
      else none

end Letterbox.Mime.Base64
