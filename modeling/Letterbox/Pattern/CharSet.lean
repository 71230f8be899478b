namespace Letterbox.Pattern

structure CharSet where
  ranges : List (Nat × Nat)
  deriving DecidableEq, Repr, Inhabited

namespace CharSet

def join : Nat × Nat → List (Nat × Nat) → List (Nat × Nat)
  | r, [] => [r]
  | r, s :: rest =>
    if s.1 ≤ r.2 + 1 then join (r.1, max r.2 s.2) rest else r :: join s rest

def ofRanges (ranges : List (Nat × Nat)) : CharSet :=
  match ranges.mergeSort (fun a b => decide (a.1 ≤ b.1)) with
  | [] => ⟨[]⟩
  | r :: rest => ⟨join r rest⟩

def empty : CharSet := ⟨[]⟩

def single (n : Nat) : CharSet := ⟨[(n, n)]⟩

def containsIn (n : Nat) : List (Nat × Nat) → Bool
  | [] => false
  | r :: rest => if n < r.1 then false else if n ≤ r.2 then true else containsIn n rest

def contains (s : CharSet) (n : Nat) : Bool :=
  containsIn n s.ranges

def union (a b : CharSet) : CharSet :=
  ofRanges (a.ranges ++ b.ranges)

def gaps (top : Nat) : Nat → List (Nat × Nat) → List (Nat × Nat)
  | low, [] => if low ≤ top then [(low, top)] else []
  | low, r :: rest =>
    if low < r.1 then (low, r.1 - 1) :: gaps top (r.2 + 1) rest else gaps top (r.2 + 1) rest

def complement (top : Nat) (s : CharSet) : CharSet :=
  ⟨gaps top 0 s.ranges⟩

def inter (top : Nat) (a b : CharSet) : CharSet :=
  complement top (union (complement top a) (complement top b))

def diff (top : Nat) (a b : CharSet) : CharSet :=
  inter top a (complement top b)

def symmDiff (top : Nat) (a b : CharSet) : CharSet :=
  diff top (union a b) (inter top a b)

def isAscii (s : CharSet) : Bool :=
  s.ranges.all fun r => decide (r.2 < 128)

end CharSet

end Letterbox.Pattern
