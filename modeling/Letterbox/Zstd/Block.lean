import Letterbox.Zstd.Literals
import Letterbox.Zstd.Sequences

namespace Letterbox.Zstd

structure Memory where
  tables : SequenceTables := {}
  code : Option PrefixCode := none
  distances : Nat × Nat × Nat := (1, 4, 8)

namespace Memory

def resolve (d : Nat × Nat × Nat) (offset literals : Nat) : Nat × (Nat × Nat × Nat) :=
  let (a, b, c) := d
  if 3 < offset then (offset - 3, (offset - 3, a, b))
  else match (if literals == 0 then offset + 1 else offset) with
    | 1 => (a, (a, b, c))
    | 2 => (b, (b, a, c))
    | 3 => (c, (c, a, b))
    | _ => (a - 1, (a - 1, a, b))

end Memory

def copyMatch (distance : Nat) : Nat → Array UInt8 → Array UInt8
  | 0, out => out
  | n + 1, out => copyMatch distance n (out.push (out.getD (out.size - distance) 0))

def carryOut (literals : Array UInt8) :
    List Sequence → Nat → (Nat × Nat × Nat) → Array UInt8 →
      Option (Array UInt8 × (Nat × Nat × Nat))
  | [], used, d, out => some (out ++ literals.extract used literals.size, d)
  | s :: rest, used, d, out =>
    let (distance, d) := Memory.resolve d s.offset s.literals
    let out := out ++ literals.extract used (used + s.literals)
    if literals.size < used + s.literals || distance == 0 || out.size < distance ||
        2 * blockLimit < s.length then none
    else carryOut literals rest (used + s.literals) d (copyMatch distance s.length out)

def decodeBlock? (m : Memory) (s : List UInt8) (out : Array UInt8) :
    Option (Memory × Array UInt8) := do
  let (literals, rest) ← Literals.read? m.code s
  let (sequences, tables) ← Sequence.read? m.tables rest
  let (result, distances) ← carryOut literals.bytes sequences.toList 0 m.distances out
  return ({ tables, code := literals.code, distances }, result)

end Letterbox.Zstd
