import Letterbox.Zstd.PrefixCode

namespace Letterbox.Zstd

def blockLimit : Nat := 131072

structure Literals where
  bytes : Array UInt8
  code : Option PrefixCode

namespace Literals

def fourStreams? (code : PrefixCode) (size : Nat) (s : List UInt8) : Option (Array UInt8) := do
  let (jump, rest) ← takeBytes? 6 s
  let part := (size + 3) / 4
  if size < 6 || size < 3 * part then none
  else
    let (a, rest) ← takeBytes? (littleEndian (jump.take 2)) rest
    let (b, rest) ← takeBytes? (littleEndian ((jump.drop 2).take 2)) rest
    let (c, d) ← takeBytes? (littleEndian (jump.drop 4)) rest
    return (← code.decode? part a) ++ (← code.decode? part b) ++ (← code.decode? part c) ++
      (← code.decode? (size - 3 * part) d)

def readPlain (repeated : Bool) (format : Nat) (code : Option PrefixCode) (s : List UInt8) :
    Option (Literals × List UInt8) := do
  let width := if format == 1 then 2 else if format == 3 then 3 else 1
  let (header, rest) ← takeBytes? width s
  let size := littleEndian header / (if width == 1 then 8 else 16)
  if blockLimit < size then none
  else if repeated then
    match rest with
    | b :: rest => return (⟨Array.replicate size b, code⟩, rest)
    | [] => none
  else
    let (bytes, rest) ← takeBytes? size rest
    return (⟨bytes.toArray, code⟩, rest)

def readCoded (again : Bool) (format : Nat) (code : Option PrefixCode) (s : List UInt8) :
    Option (Literals × List UInt8) := do
  let (width, bits) := if format < 2 then (3, 10) else if format == 2 then (4, 14) else (5, 18)
  let (header, rest) ← takeBytes? width s
  let word := littleEndian header / 16
  let size := word % Nat.pow 2 bits
  let (body, after) ← takeBytes? (word / Nat.pow 2 bits) rest
  if blockLimit < size then none
  else
    let (code, streams) ← if again then code.map fun c => (c, body) else PrefixCode.read? body
    let bytes ← if format == 0 then code.decode? size streams else fourStreams? code size streams
    return (⟨bytes, some code⟩, after)

def read? (code : Option PrefixCode) (s : List UInt8) : Option (Literals × List UInt8) :=
  match s with
  | [] => none
  | b :: _ =>
    let format := b.toNat / 4 % 4
    match b.toNat % 4 with
    | 0 => readPlain false format code s
    | 1 => readPlain true format code s
    | 2 => readCoded false format code s
    | _ => readCoded true format code s

end Literals

end Letterbox.Zstd
