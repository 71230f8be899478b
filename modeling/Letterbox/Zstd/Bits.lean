namespace Letterbox.Zstd

def littleEndian (s : List UInt8) : Nat :=
  s.foldr (fun b n => n * 256 + b.toNat) 0

def byteAt (data : Array UInt8) (i : Nat) : Nat :=
  (data.getD i 0).toNat

def bitsAt (data : Array UInt8) (pos count : Nat) : Nat :=
  let i := pos / 8
  let word := byteAt data i + byteAt data (i + 1) * 0x100 + byteAt data (i + 2) * 0x10000 +
    byteAt data (i + 3) * 0x1000000 + byteAt data (i + 4) * 0x100000000
  word / Nat.pow 2 (pos % 8) % Nat.pow 2 count

def bitsBelow (data : Array UInt8) (pos : Int) (count : Nat) : Nat :=
  let low := pos - count
  if 0 ≤ low then bitsAt data low.toNat count
  else if pos ≤ 0 then 0
  else bitsAt data 0 pos.toNat * Nat.pow 2 (count - pos.toNat)

def streamTop? (data : Array UInt8) : Option Int :=
  match data.back? with
  | some last =>
    if last == 0 then none else some (((data.size - 1) * 8 + last.toNat.log2 : Nat) : Int)
  | none => none

def takeBytes? (n : Nat) (s : List UInt8) : Option (List UInt8 × List UInt8) :=
  if s.length < n then none else some (s.take n, s.drop n)

end Letterbox.Zstd
