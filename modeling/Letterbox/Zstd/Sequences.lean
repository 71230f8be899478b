import Letterbox.Zstd.StateTable

namespace Letterbox.Zstd

structure Sequence where
  literals : Nat
  offset : Nat
  length : Nat
  deriving Repr, Inhabited

structure SequenceTables where
  literals : Option StateTable := none
  offsets : Option StateTable := none
  lengths : Option StateTable := none

namespace SequenceTables

def literalCodes : Array (Nat × Nat) :=
  ((List.range 16).map fun n => (n, 0)).toArray ++ #[(16, 1), (18, 1), (20, 1), (22, 1), (24, 2),
    (28, 2), (32, 3), (40, 3), (48, 4), (64, 6), (128, 7), (256, 8), (512, 9), (1024, 10),
    (2048, 11), (4096, 12), (8192, 13), (16384, 14), (32768, 15), (65536, 16)]

def lengthCodes : Array (Nat × Nat) :=
  ((List.range 32).map fun n => (n + 3, 0)).toArray ++ #[
    (35, 1), (37, 1), (39, 1), (41, 1), (43, 2),
    (47, 2), (51, 3), (59, 3), (67, 4), (83, 4), (99, 5), (131, 7), (259, 8), (515, 9), (1027, 10),
    (2051, 11), (4099, 12), (8195, 13), (16387, 14), (32771, 15), (65539, 16)]

def standardLiterals : Option StateTable :=
  StateTable.ofWeights? 6 [
    4, 3, 2, 2, 2, 2, 2, 2, 2, 2, 2, 2, 2, 1, 1, 1, 2, 2, 2, 2, 2, 2, 2, 2, 2, 3, 2, 1, 1, 1, 1,
    1, -1, -1, -1, -1]

def standardOffsets : Option StateTable :=
  StateTable.ofWeights? 5 [
    1, 1, 1, 1, 1, 1, 2, 2, 2, 1, 1, 1, 1, 1, 1, 1, 1, 1, 1, 1, 1, 1, 1, 1, -1, -1, -1, -1, -1]

def standardLengths : Option StateTable :=
  StateTable.ofWeights? 6 [
    1, 4, 3, 2, 2, 2, 2, 2, 2, 1, 1, 1, 1, 1, 1, 1, 1, 1, 1, 1, 1, 1, 1, 1, 1, 1, 1, 1, 1, 1, 1,
    1, 1, 1, 1, 1, 1, 1, 1, 1, 1, 1, 1, 1, 1, 1, -1, -1, -1, -1, -1, -1, -1]

def readTable (mode : Nat) (standard last : Option StateTable) (accuracy most : Nat)
    (s : List UInt8) : Option (StateTable × List UInt8) :=
  match mode with
  | 0 => standard.map fun t => (t, s)
  | 1 =>
    match s with
    | b :: rest => if b.toNat < most then some (.constant b.toNat, rest) else none
    | [] => none
  | 2 => (StateTable.read? s.toArray accuracy most).bind fun r =>
    (takeBytes? r.2 s).map fun p => (r.1, p.2)
  | _ => last.map fun t => (t, s)

end SequenceTables

namespace Sequence

open SequenceTables

def readCount : List UInt8 → Option (Nat × List UInt8)
  | [] => none
  | b :: rest =>
    if b < 128 then some (b.toNat, rest)
    else if b < 255 then
      match rest with
      | c :: rest => some ((b.toNat - 128) * 256 + c.toNat, rest)
      | [] => none
    else
      match rest with
      | c :: d :: rest => some (c.toNat + d.toNat * 256 + 0x7F00, rest)
      | _ => none

structure States where
  literals : Nat
  offset : Nat
  length : Nat

def readAll (ll of ml : StateTable) (data : Array UInt8) :
    Nat → Int → States → Array Sequence → Option (Array Sequence)
  | 0, pos, _, out => if pos == 0 then some out else none
  | n + 1, pos, st, out =>
    if pos < 0 then none
    else
      let l := ll.entry st.literals
      let o := of.entry st.offset
      let m := ml.entry st.length
      let (lBase, lBits) := literalCodes.getD l.symbol (0, 0)
      let (mBase, mBits) := lengthCodes.getD m.symbol (0, 0)
      let offset := Nat.pow 2 o.symbol + bitsBelow data pos o.symbol
      let pos := pos - o.symbol
      let length := mBase + bitsBelow data pos mBits
      let pos := pos - mBits
      let literals := lBase + bitsBelow data pos lBits
      let pos := pos - lBits
      let out := out.push { literals, offset, length }
      if n == 0 then readAll ll of ml data n pos st out
      else
        let nextL := l.base + bitsBelow data pos l.bits
        let pos := pos - l.bits
        let nextM := m.base + bitsBelow data pos m.bits
        let pos := pos - m.bits
        let nextO := o.base + bitsBelow data pos o.bits
        readAll ll of ml data n (pos - o.bits) ⟨nextL, nextO, nextM⟩ out

def read? (tables : SequenceTables) (s : List UInt8) :
    Option (Array Sequence × SequenceTables) := do
  let (count, rest) ← readCount s
  if count == 0 then
    if rest.isEmpty then some (#[], tables) else none
  else
    match rest with
    | [] => none
    | modes :: rest =>
      if modes.toNat % 4 != 0 then none
      else
        let (ll, rest) ← readTable (modes.toNat / 64) standardLiterals tables.literals 9 36 rest
        let (of, rest) ← readTable (modes.toNat / 16 % 4) standardOffsets tables.offsets 8 32 rest
        let (ml, rest) ← readTable (modes.toNat / 4 % 4) standardLengths tables.lengths 9 53 rest
        let data := rest.toArray
        let top ← streamTop? data
        let first := bitsBelow data top ll.accuracy
        let top := top - ll.accuracy
        let second := bitsBelow data top of.accuracy
        let top := top - of.accuracy
        let third := bitsBelow data top ml.accuracy
        let all ← readAll ll of ml data count (top - ml.accuracy) ⟨first, second, third⟩ #[]
        return (all, { literals := some ll, offsets := some of, lengths := some ml })

end Sequence

end Letterbox.Zstd
