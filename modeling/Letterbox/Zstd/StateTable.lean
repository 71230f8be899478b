import Letterbox.Zstd.Bits

namespace Letterbox.Zstd

structure StateEntry where
  symbol : Nat
  bits : Nat
  base : Nat
  deriving Repr, Inhabited

structure StateTable where
  accuracy : Nat
  entries : Array StateEntry
  deriving Repr, Inhabited

namespace StateTable

def constant (symbol : Nat) : StateTable :=
  { accuracy := 0, entries := #[⟨symbol, 0, 0⟩] }

def nextSlot (size bound : Nat) : Nat → Nat → Nat
  | 0, pos => pos
  | fuel + 1, pos =>
    let next := (pos + size / 2 + size / 8 + 3) % size
    if next < bound then next else nextSlot size bound fuel next

def placeAll (size bound : Nat) : List Nat → Nat → Array Nat → Nat × Array Nat
  | [], pos, symbols => (pos, symbols)
  | s :: rest, pos, symbols =>
    placeAll size bound rest (nextSlot size bound size pos) (symbols.setIfInBounds pos s)

def fillEntries (accuracy : Nat) : List Nat → Array Nat → Array StateEntry → Array StateEntry
  | [], _, entries => entries
  | s :: rest, next, entries =>
    let n := next.getD s 1
    let bits := accuracy - n.log2
    fillEntries accuracy rest (next.setIfInBounds s (n + 1))
      (entries.push ⟨s, bits, n * Nat.pow 2 bits - Nat.pow 2 accuracy⟩)

def ofWeights? (accuracy : Nat) (weights : List Int) : Option StateTable :=
  let size := Nat.pow 2 accuracy
  let indexed := (List.range weights.length).zip weights
  let rare := (indexed.filter fun p => p.2 == -1).map (·.1)
  let bound := size - rare.length
  let start := (List.range rare.length).foldl
    (fun symbols i => symbols.setIfInBounds (size - 1 - i) (rare.getD i 0)) (Array.replicate size 0)
  let (pos, symbols) := placeAll size bound
    (indexed.flatMap fun p => List.replicate p.2.toNat p.1) 0 start
  if pos != 0 then none
  else
    let next := (weights.map fun w => if w == -1 then 1 else w.toNat).toArray
    some { accuracy, entries := fillEntries accuracy symbols.toList next #[] }

def readZeros (data : Array UInt8) : Nat → Nat → Nat → Nat × Nat
  | 0, pos, zeros => (pos, zeros)
  | fuel + 1, pos, zeros =>
    let n := bitsAt data pos 2
    if n == 3 then readZeros data fuel (pos + 2) (zeros + 3) else (pos + 2, zeros + n)

def readWeights (data : Array UInt8) (most : Nat) :
    Nat → Nat → Nat → List Int → Option (List Int × Nat)
  | 0, _, _, _ => none
  | fuel + 1, left, pos, weights =>
    if left == 0 then some (weights, pos)
    else if most < weights.length + 1 || data.size * 8 < pos then none
    else
      let bits := (left + 1).log2 + 1
      let value := bitsAt data pos bits
      let low := value % Nat.pow 2 (bits - 1)
      let threshold := Nat.pow 2 bits - 1 - (left + 1)
      let short := low < threshold
      let v := if short then low else if Nat.pow 2 (bits - 1) ≤ value then value - threshold else value
      let pos := pos + (if short then bits - 1 else bits)
      let w : Int := v - 1
      if left < w.natAbs then none
      else if w == 0 then
        let (pos, zeros) := readZeros data (data.size * 4 + 1) pos 0
        readWeights data most fuel left pos (weights ++ 0 :: List.replicate zeros 0)
      else readWeights data most fuel (left - w.natAbs) pos (weights ++ [w])

def read? (data : Array UInt8) (mostAccuracy most : Nat) : Option (StateTable × Nat) := do
  let accuracy := bitsAt data 0 4 + 5
  if mostAccuracy < accuracy then none
  else
    let (weights, pos) ← readWeights data most (Nat.pow 2 accuracy + most + 2) (Nat.pow 2 accuracy) 4 []
    if most < weights.length || data.size * 8 < pos then none
    else return (← ofWeights? accuracy weights, (pos + 7) / 8)

def entry (t : StateTable) (state : Nat) : StateEntry :=
  t.entries.getD state default

end StateTable

end Letterbox.Zstd
