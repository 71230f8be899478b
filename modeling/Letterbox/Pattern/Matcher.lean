import Letterbox.Pattern.Subject

namespace Letterbox.Pattern

def joinOnto : List Nat → List Nat → List Nat → List Nat
  | below, [], b => below.reverse ++ b
  | below, a, [] => below.reverse ++ a
  | below, x :: a, y :: b =>
    if x < y then joinOnto (x :: below) a (y :: b)
    else if y < x then joinOnto (y :: below) (x :: a) b
    else joinOnto (x :: below) a b
  termination_by _ a b => a.length + b.length

def joinPositions (a b : List Nat) : List Nat :=
  joinOnto [] a b

def stepTimes (f : List Nat → List Nat) : Nat → List Nat → List Nat
  | 0, s => s
  | n + 1, s =>
    let next := f s
    if next == s then s else stepTimes f n next

def spread (f : List Nat → List Nat) : Nat → Array Bool → List Nat → Array Bool
  | 0, seen, _ => seen
  | n + 1, seen, newest =>
    let fresh := (f newest).filter fun p => !seen.getD p true
    if fresh.isEmpty then seen
    else spread f n (fresh.foldl (fun seen p => seen.setIfInBounds p true) seen) fresh

def reach (f : List Nat → List Nat) (size rounds : Nat) (s : List Nat) : List Nat :=
  if s.isEmpty then []
  else
    let unseen := Array.replicate (size + 1) false
    let start := s.foldl (fun seen p => seen.setIfInBounds p true) unseen
    let seen := spread f rounds start s
    (List.range (size + 1)).filter fun p => seen.getD p false

namespace Expr

def ends (t : Subject) : Expr → List Nat → List Nat
  | .empty, s => s
  | .char set, s => s.filterMap fun p =>
    match t.charAt p with
    | some (c, n) => if set.contains c.toNat then some (p + n) else none
    | none => none
  | .byte set, s => s.filterMap fun p =>
    match t.byteAt p with
    | some b => if set.contains b.toNat then some (p + 1) else none
    | none => none
  | .look l, s => s.filter (t.holds l)
  | .seq a b, s => b.ends t (a.ends t s)
  | .alt a b, s => joinPositions (a.ends t s) (b.ends t s)
  | .repeat least most e, s =>
    let rounds := match most with
      | some m => min (m - least) (t.size + 1)
      | none => t.size + 1
    reach (e.ends t) t.size rounds (stepTimes (e.ends t) least s)

def isFound (e : Expr) (t : Subject) : Bool :=
  !(e.ends t (List.range (t.size + 1))).isEmpty

end Expr

end Letterbox.Pattern
