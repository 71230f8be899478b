import Letterbox.Zstd.StateTable

namespace Letterbox.Zstd

structure PrefixCode where
  bits : Nat
  entries : Array (UInt8 × Nat)
  deriving Repr, Inhabited

namespace PrefixCode

def level (bits : Nat) (weights : List Nat) (weight : Nat) : List (UInt8 × Nat) :=
  ((List.range weights.length).zip weights).flatMap fun p =>
    if p.2 == weight then
      List.replicate (Nat.pow 2 (weight - 1)) (UInt8.ofNat p.1, bits + 1 - weight)
    else []

def ofWeights? (weights : List Nat) : Option PrefixCode :=
  let sum := weights.foldl (fun n w => n + Nat.pow 2 w / 2) 0
  if sum == 0 then none
  else
    let bits := sum.log2 + 1
    let left := Nat.pow 2 bits - sum
    if 12 < bits || 256 ≤ weights.length || weights.any (fun w => decide (bits < w)) ||
        left != Nat.pow 2 left.log2 then none
    else
      let all := weights ++ [left.log2 + 1]
      some { bits, entries := ((List.range bits).flatMap fun i => level bits all (i + 1)).toArray }

def readStates (t : StateTable) (data : Array UInt8) :
    Nat → Int → Nat → Nat → List Nat → Option (List Nat)
  | 0, _, _, _, _ => none
  | fuel + 1, pos, current, other, weights =>
    let e := t.entry current
    let next := e.base + bitsBelow data pos e.bits
    let pos := pos - e.bits
    let weights := weights ++ [e.symbol]
    if pos < 0 then some (weights ++ [(t.entry other).symbol])
    else readStates t data fuel pos other next weights

def readCodedWeights (data : Array UInt8) : Option (List Nat) := do
  let (t, used) ← StateTable.read? data 6 255
  let stream := data.extract used data.size
  let top ← streamTop? stream
  let first := bitsBelow stream top t.accuracy
  let second := bitsBelow stream (top - t.accuracy) t.accuracy
  let pos := top - 2 * t.accuracy
  if pos < 0 then none else readStates t stream 256 pos first second []

def plainWeights (count : Nat) (s : List UInt8) : List Nat :=
  (s.flatMap fun b => [b.toNat / 16, b.toNat % 16]).take count

def read? (s : List UInt8) : Option (PrefixCode × List UInt8) := do
  match s with
  | [] => none
  | header :: rest =>
    if header < 128 then
      let (coded, rest) ← takeBytes? header.toNat rest
      return (← ofWeights? (← readCodedWeights coded.toArray), rest)
    else
      let count := header.toNat - 127
      let (plain, rest) ← takeBytes? ((count + 1) / 2) rest
      return (← ofWeights? (plainWeights count plain), rest)

def decodeFrom (code : PrefixCode) (data : Array UInt8) :
    Nat → Int → Array UInt8 → Int × Array UInt8
  | 0, pos, out => (pos, out)
  | n + 1, pos, out =>
    let e := code.entries.getD (bitsBelow data pos code.bits) (0, 0)
    decodeFrom code data n (pos - e.2) (out.push e.1)

def decode? (code : PrefixCode) (count : Nat) (s : List UInt8) : Option (Array UInt8) := do
  let data := s.toArray
  let top ← streamTop? data
  let (pos, out) := decodeFrom code data count top #[]
  if pos == 0 then some out else none

end PrefixCode

end Letterbox.Zstd
