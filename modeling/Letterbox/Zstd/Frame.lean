import Letterbox.Zstd.Block
import Letterbox.Zstd.Checksum

namespace Letterbox.Zstd

def magic : List UInt8 := [0x28, 0xB5, 0x2F, 0xFD]

structure FrameHeader where
  window : Nat
  contentSize : Option Nat
  checksum : Bool
  deriving DecidableEq, Repr

def windowLimit : Nat := 134217729

namespace FrameHeader

def windowOf (b : UInt8) : Nat :=
  let base := Nat.pow 2 (10 + b.toNat / 8)
  base + base / 8 * (b.toNat % 8)

def sizeWidth (form : Nat) (single : Bool) : Nat :=
  match form with
  | 0 => if single then 1 else 0
  | 1 => 2
  | 2 => 4
  | _ => 8

def sizeOf (width : Nat) (s : List UInt8) : Option Nat :=
  match width with
  | 0 => none
  | 2 => some (littleEndian s + 256)
  | _ => some (littleEndian s)

def read? (s : List UInt8) : Option (FrameHeader × List UInt8) := do
  match s with
  | [] => none
  | descriptor :: rest =>
    let d := descriptor.toNat
    let single := d / 32 % 2 == 1
    if d / 8 % 2 == 1 then none
    else
      let (window, rest) ← takeBytes? (if single then 0 else 1) rest
      let (dictionary, rest) ← takeBytes? (if d % 4 == 3 then 4 else d % 4) rest
      let width := sizeWidth (d / 64) single
      let (size, rest) ← takeBytes? width rest
      let contentSize := sizeOf width size
      let window := if single then contentSize.getD 0 else (window.map windowOf).headD 0
      if littleEndian dictionary != 0 || windowLimit < window then none
      else return ({ window, contentSize, checksum := d / 4 % 2 == 1 }, rest)

def blockSize (h : FrameHeader) : Nat :=
  min h.window blockLimit

end FrameHeader

def readBlock (h : FrameHeader) (kind size : Nat) (m : Memory) (out : Array UInt8)
    (s : List UInt8) : Option ((Memory × Array UInt8) × List UInt8) :=
  if kind == 1 then
    match s with
    | b :: rest =>
      if h.blockSize < size then none else some ((m, out ++ Array.replicate size b), rest)
    | [] => none
  else if h.blockSize < size || kind == 3 then none
  else
    (takeBytes? size s).bind fun r =>
      if kind == 0 || size == 0 then some ((m, out ++ r.1.toArray), r.2)
      else (decodeBlock? m r.1 out).bind fun d =>
        if out.size + h.blockSize < d.2.size then none else some (d, r.2)

def readBlocks (h : FrameHeader) :
    Nat → Memory → Array UInt8 → List UInt8 → Option (Array UInt8 × List UInt8)
  | 0, _, _, _ => none
  | fuel + 1, m, out, s =>
    match s with
    | a :: b :: c :: rest =>
      let word := littleEndian [a, b, c]
      (readBlock h (word / 2 % 4) (word / 8) m out rest).bind fun r =>
        if word % 2 == 1 then some (r.1.2, r.2) else readBlocks h fuel r.1.1 r.1.2 r.2
    | _ => none

def readChecksum (content : List UInt8) (s : List UInt8) : Option (List UInt8) :=
  (takeBytes? 4 s).bind fun r =>
    if littleEndian r.1 == (Checksum.ofBytes content).toNat % 4294967296 then some r.2 else none

def readFrame (s : List UInt8) : Option (List UInt8 × List UInt8) := do
  let (h, rest) ← FrameHeader.read? s
  let (out, rest) ← readBlocks h (rest.length + 1) {} #[] rest
  let content := out.toList
  if h.contentSize.any fun n => n != content.length then none
  else
    let rest ← if h.checksum then readChecksum content rest else some rest
    return (content, rest)

def isSkipped (word : List UInt8) : Bool :=
  littleEndian word / 16 == 0x184D2A5

def readFrames : Nat → List UInt8 → Option (List UInt8)
  | 0, _ => none
  | fuel + 1, s =>
    if s.isEmpty then some []
    else (takeBytes? 4 s).bind fun r =>
      if r.1 == magic then
        (readFrame r.2).bind fun f => (readFrames fuel f.2).map fun rest => f.1 ++ rest
      else if isSkipped r.1 then
        (takeBytes? 4 r.2).bind fun n =>
          (takeBytes? (littleEndian n.1) n.2).bind fun b => readFrames fuel b.2
      else none

def decompress? (s : List UInt8) : Option (List UInt8) :=
  if s.isEmpty then none else readFrames (s.length + 1) s

def plainBlock (last : Bool) (s : List UInt8) : List UInt8 :=
  let word := s.length * 8 + (if last then 1 else 0)
  [UInt8.ofNat word, UInt8.ofNat (word / 256), UInt8.ofNat (word / 65536)] ++ s

def plainBlocks (s : List UInt8) : List UInt8 :=
  if blockLimit < s.length then
    plainBlock false (s.take blockLimit) ++ plainBlocks (s.drop blockLimit)
  else plainBlock true s
  termination_by s.length
  decreasing_by simp only [List.length_drop, blockLimit] at *; omega

def compress (s : List UInt8) : List UInt8 :=
  magic ++ [0, 0x38] ++ plainBlocks s

end Letterbox.Zstd
