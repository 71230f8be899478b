import Letterbox.Text.CaseTable

namespace Letterbox.Text

open CaseTable

def inRanges (ranges : List (Nat × Nat)) (n : Nat) : Bool :=
  ranges.any fun r => decide (r.1 ≤ n) && decide (n ≤ r.2)

def isCased (c : Char) : Bool :=
  if c.toNat < 128 then c.isAlpha else inRanges casedRanges c.toNat

def isCaseIgnorable (c : Char) : Bool :=
  if c.toNat < 128 then c.toNat == 39 || c == '.' || c == ':' || c == '^' || c.toNat == 96
  else inRanges ignorableRanges c.toNat

def lowerChar (c : Char) : List Char :=
  if c.toNat < 128 then [c.toLower]
  else if c.toNat == 0x130 then ['i', '\u0307']
  else match lowerRuns.find? (fun r => r.has c.toNat) with
    | some r => [Char.ofNat (Int.toNat (c.toNat + r.shift))]
    | none => [c]

def meetsCased (s : List Char) : Bool :=
  match s.dropWhile isCaseIgnorable with
  | [] => false
  | c :: _ => isCased c

def lowerAfter (before : List Char) : List Char → List Char
  | [] => []
  | c :: rest =>
    (if c == 'Σ' then (if meetsCased before && !meetsCased rest then ['ς'] else ['σ'])
      else lowerChar c) ++ lowerAfter (c :: before) rest

def lower (s : List Char) : List Char :=
  lowerAfter [] s

def lowerAscii (s : List Char) : List Char :=
  s.map Char.toLower

def sameAscii (a b : List Char) : Bool :=
  lowerAscii a == lowerAscii b

end Letterbox.Text
