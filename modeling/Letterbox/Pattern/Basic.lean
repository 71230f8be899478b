import Letterbox.Pattern.CharSet

namespace Letterbox.Pattern

inductive WordEdge where
  | boundary
  | inside
  | start
  | stop
  | startHalf
  | stopHalf
  deriving DecidableEq, Repr

inductive Look where
  | start
  | stop
  | lineStart
  | lineStop
  | anyLineStart
  | anyLineStop
  | word (unicode : Bool) (edge : WordEdge)
  deriving DecidableEq, Repr

inductive Expr where
  | empty
  | char (set : CharSet)
  | byte (set : CharSet)
  | look (what : Look)
  | seq (first second : Expr)
  | alt (first second : Expr)
  | repeat (least : Nat) (most : Option Nat) (body : Expr)
  deriving Repr

namespace Expr

def ofList : List Expr → Expr
  | [] => .empty
  | [e] => e
  | e :: f :: rest => .seq e (ofList (f :: rest))

def anyOf : List Expr → Expr
  | [] => .empty
  | [e] => e
  | e :: f :: rest => .alt e (anyOf (f :: rest))

def isWidthless : Expr → Bool
  | .empty => true
  | .char _ => false
  | .byte _ => false
  | .look _ => true
  | .seq a b => a.isWidthless && b.isWidthless
  | .alt a b => a.isWidthless && b.isWidthless
  | .repeat _ most e => most == some 0 || e.isWidthless

def repeated (least : Nat) (most : Option Nat) (e : Expr) : Expr :=
  if most == some 0 then .empty
  else if e.isWidthless then .repeat (min least 1) (some 1) e
  else .repeat least most e

def setWeight (s : CharSet) : Nat :=
  if s.isAscii then (if s.ranges.length ≤ 1 then 32 else 64 + 8 * s.ranges.length)
  else 64 * s.ranges.length

def weight : Expr → Nat
  | .empty => 32
  | .char s => setWeight s
  | .byte s => setWeight s
  | .look _ => 32
  | .seq a b => a.weight + b.weight
  | .alt a b => a.weight + b.weight + 40
  | .repeat least most e =>
    match most with
    | some m => m * e.weight + (m - least) * 40
    | none => (max least 1) * e.weight + 40

def weightLimit : Nat := 10485760

end Expr

end Letterbox.Pattern
