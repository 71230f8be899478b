import Letterbox.Text.Decimal

namespace Letterbox

/-- `finite negative m e` is `m * 2 ^ e` with the sign given. `m` has 53 bits, fewer only where `e`
is least. -/
inductive Binary64 where
  | finite (negative : Bool) (m : Nat) (e : Int)
  | infinite (negative : Bool)
  | notANumber
  deriving DecidableEq, Repr, Inhabited

namespace Binary64

open Text

def leastExponent : Int := -1074

def largestExponent : Int := 971

def leastFull : Nat := 4503599627370496

def ratio (base m : Nat) (e : Int) : Nat × Nat :=
  if 0 ≤ e then (m * Nat.pow base e.toNat, 1) else (m, Nat.pow base e.natAbs)

def nearest (num den : Nat) : Nat :=
  let q := num / den
  let twice := 2 * (num % den)
  if twice > den || (twice == den && q % 2 == 1) then q + 1 else q

def bitsOf (num den : Nat) : Int :=
  (Nat.log2 num : Int) - Nat.log2 den + 1

def ofRatio (negative : Bool) (num den : Nat) : Binary64 :=
  let scaled := fun (e : Int) =>
    if 0 ≤ e then (num, den * Nat.pow 2 e.toNat) else (num * Nat.pow 2 e.natAbs, den)
  let e := max leastExponent (bitsOf num den - 53)
  let e := if (scaled e).1 < (scaled e).2 * leastFull then max leastExponent (e - 1) else e
  let m := nearest (scaled e).1 (scaled e).2
  let (m, e) := if m == 2 * leastFull then (leastFull, e + 1) else (m, e)
  if e > largestExponent then .infinite negative else .finite negative m e

def ofDecimal (negative : Bool) (digits : List Char) (exponent : Int) : Binary64 :=
  let digits := digits.dropWhile (· == '0')
  let magnitude : Int := digits.length + exponent
  if digits.isEmpty || magnitude < -330 then .finite negative 0 leastExponent
  else if magnitude > 310 then .infinite negative
  else
    let (num, den) := ratio 10 (ofDigits digits) exponent
    ofRatio negative num den

def readUnsigned (negative : Bool) (s : List Char) : Option Binary64 :=
  let whole := s.takeWhile isDigit
  let rest := s.dropWhile isDigit
  let (fraction, rest) := match rest with
    | '.' :: r => (r.takeWhile isDigit, r.dropWhile isDigit)
    | r => ([], r)
  let exponent? : Option Int := match rest with
    | [] => some 0
    | c :: r =>
      if c == 'e' || c == 'E' then
        let (sign, ds) : Int × List Char := match r with
          | '-' :: ds => (-1, ds)
          | '+' :: ds => (1, ds)
          | ds => (1, ds)
        if ds.isEmpty || !ds.all isDigit then none else some (sign * ofDigits ds)
      else none
  if whole.isEmpty && fraction.isEmpty then none
  else exponent?.map fun e => ofDecimal negative (whole ++ fraction) (e - fraction.length)

def read? (s : List Char) : Option Binary64 :=
  let (negative, s) := match s with
    | '-' :: r => (true, r)
    | '+' :: r => (false, r)
    | r => (false, r)
  match String.ofList (s.map Char.toLower) with
  | "inf" => some (.infinite negative)
  | "infinity" => some (.infinite negative)
  | "nan" => some .notANumber
  | _ => readUnsigned negative s

def isZero : Binary64 → Bool
  | .finite _ m _ => m == 0
  | _ => false

def round : Binary64 → Option Int
  | .finite negative m e =>
    let (num, den) := ratio 2 m e
    let n : Int := (2 * num + den) / (2 * den)
    some (if negative then -n else n)
  | _ => none

def clamp (low high : Int) (x : Binary64) : Int :=
  match x.round, x with
  | some n, _ => max low (min high n)
  | none, .infinite negative => if negative then low else high
  | none, _ => 0

def halfway (m : Nat) (e : Int) : Nat × Nat :=
  (if m == leastFull && e > leastExponent then 4 * m - 1 else 4 * m - 2, 4 * m + 2)

def readsAs (m : Nat) (e : Int) (n : Nat) (k : Int) : Bool :=
  let (low, high) := halfway m e
  let (bn, bd) := ratio 2 1 (e - 2)
  let (tn, td) := ratio 10 n k
  let x := tn * bd
  let unit := bn * td
  if m % 2 == 0 then low * unit ≤ x && x ≤ high * unit else low * unit < x && x < high * unit

def onGrid (m : Nat) (e : Int) (k : Int) : Option Nat :=
  let (bn, bd) := ratio 2 m e
  let (tn, td) := ratio 10 1 k
  let num := bn * td
  let den := bd * tn
  let below := num / den
  let order := if 2 * (num % den) < den then [below, below + 1] else [below + 1, below]
  order.find? fun n => n > 0 && readsAs m e n k

def shortestFrom (m : Nat) (e : Int) : Nat → Int → Nat × Int
  | 0, k => ((onGrid m e k).getD 0, k)
  | fuel + 1, k =>
    match onGrid m e k with
    | some n => (n, k)
    | none => shortestFrom m e fuel (k - 1)

def shortest (m : Nat) (e : Int) : Nat × Int :=
  shortestFrom m e 640 309

def positional (digits : List Char) (k : Int) : List Char :=
  if 0 ≤ k then digits ++ List.replicate k.toNat '0'
  else if digits.length > k.natAbs then
    digits.take (digits.length - k.natAbs) ++ '.' :: digits.drop (digits.length - k.natAbs)
  else '0' :: '.' :: List.replicate (k.natAbs - digits.length) '0' ++ digits

def text : Binary64 → List Char
  | .finite negative m e =>
    let body := if m == 0 then ['0'] else let (n, k) := shortest m e; positional (digits n) k
    if negative then '-' :: body else body
  | .infinite negative => if negative then "-inf".toList else "inf".toList
  | .notANumber => "NaN".toList

def fifteen (m : Nat) (e : Int) : List Char × Int :=
  let (num, den) := ratio 2 m e
  let guess : Int := (digits num).length - (digits den).length
  let (gn, gd) := ratio 10 1 guess
  let top := if num * gd < den * gn then guess - 1 else guess
  let (sn, sd) := ratio 10 1 (14 - top)
  let n := (2 * num * sn + den * sd) / (2 * den * sd)
  if n == 1000000000000000 then (['1'], top + 1) else (digits n, top)

def scientific (first : Char) (others : List Char) (top : Int) : List Char :=
  let others := if others.isEmpty then ['0'] else others
  first :: '.' :: others ++ 'e' :: (if top < 0 then '-' else '+') :: padded 2 top.natAbs

def columnText : Binary64 → List Char
  | .finite negative m e =>
    if m == 0 then ['0', '.', '0']
    else
      let (ds, top) := fifteen m e
      let ds := (ds.reverse.dropWhile (· == '0')).reverse
      let body :=
        if top < -4 || 14 < top then scientific (ds.headD '0') (ds.drop 1) top
        else
          let s := positional ds (top + 1 - ds.length)
          if s.contains '.' then s else s ++ ['.', '0']
      if negative then '-' :: body else body
  | .infinite negative => if negative then "-Inf".toList else "Inf".toList
  | .notANumber => []

end Binary64

end Letterbox
