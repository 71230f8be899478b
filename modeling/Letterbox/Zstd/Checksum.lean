namespace Letterbox.Zstd.Checksum

def prime1 : UInt64 := 0x9E3779B185EBCA87
def prime2 : UInt64 := 0xC2B2AE3D27D4EB4F
def prime3 : UInt64 := 0x165667B19E3779F9
def prime4 : UInt64 := 0x85EBCA77C2B2AE63
def prime5 : UInt64 := 0x27D4EB2F165667C5

def rotate (x : UInt64) (n : UInt64) : UInt64 :=
  (x <<< n) ||| (x >>> (64 - n))

def round (sum lane : UInt64) : UInt64 :=
  rotate (sum + lane * prime2) 31 * prime1

def mergeRound (hash sum : UInt64) : UInt64 :=
  (hash ^^^ round 0 sum) * prime1 + prime4

def word (s : List UInt8) : UInt64 :=
  s.foldr (fun b n => n * 256 + b.toUInt64) 0

structure Sums where
  a : UInt64 := prime1 + prime2
  b : UInt64 := prime2
  c : UInt64 := 0
  d : UInt64 := 0 - prime1

def Sums.add (v : Sums) (strip : List UInt8) : Sums :=
  { a := round v.a (word (strip.take 8))
    b := round v.b (word ((strip.drop 8).take 8))
    c := round v.c (word ((strip.drop 16).take 8))
    d := round v.d (word ((strip.drop 24).take 8)) }

def addStrips (v : Sums) (s : List UInt8) : Sums × List UInt8 :=
  if 32 ≤ s.length then addStrips (v.add (s.take 32)) (s.drop 32)
  else (v, s)
  termination_by s.length
  decreasing_by simp only [List.length_drop]; omega

def Sums.hash (v : Sums) : UInt64 :=
  let h := rotate v.a 1 + rotate v.b 7 + rotate v.c 12 + rotate v.d 18
  mergeRound (mergeRound (mergeRound (mergeRound h v.a) v.b) v.c) v.d

def addByte (h : UInt64) (b : UInt8) : UInt64 :=
  rotate (h ^^^ (b.toUInt64 * prime5)) 11 * prime1

def addRest (h : UInt64) (s : List UInt8) : UInt64 :=
  if 8 ≤ s.length then
    addRest (rotate (h ^^^ round 0 (word (s.take 8))) 27 * prime1 + prime4) (s.drop 8)
  else if 4 ≤ s.length then
    (s.drop 4).foldl addByte (rotate (h ^^^ (word (s.take 4) * prime1)) 23 * prime2 + prime3)
  else s.foldl addByte h
  termination_by s.length
  decreasing_by simp only [List.length_drop]; omega

def avalanche (h : UInt64) : UInt64 :=
  let h := (h ^^^ (h >>> 33)) * prime2
  let h := (h ^^^ (h >>> 29)) * prime3
  h ^^^ (h >>> 32)

def ofBytes (s : List UInt8) : UInt64 :=
  let (sums, rest) := addStrips {} s
  let start := if s.length < 32 then prime5 else sums.hash
  avalanche (addRest (start + s.length.toUInt64) rest)

end Letterbox.Zstd.Checksum
