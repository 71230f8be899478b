import Letterbox.Number.Total
import Letterbox.Text.Blank
import Letterbox.Text.Decimal

namespace Letterbox

structure Date where
  year : Int
  month : Nat
  day : Nat
  deriving DecidableEq, Repr, Inhabited

namespace Date

open Text

def isLeap (y : Int) : Bool :=
  y % 4 == 0 && (y % 100 != 0 || y % 400 == 0)

def monthLengths (leap : Bool) : List Nat :=
  [31, if leap then 29 else 28, 31, 30, 31, 30, 31, 31, 30, 31, 30, 31]

def firstYear : Int := -262143

def lastYear : Int := 262142

def isValid (d : Date) : Bool :=
  firstYear ≤ d.year && d.year ≤ lastYear && 1 ≤ d.month && 1 ≤ d.day &&
    (monthLengths (isLeap d.year))[d.month - 1]?.any (d.day ≤ ·)

def daysBeforeYear (y : Int) : Int :=
  365 * (y - 1) + (y - 1) / 4 - (y - 1) / 100 + (y - 1) / 400

def epochDay : Int := 719162

def toDays (d : Date) : Int :=
  daysBeforeYear d.year + total ((monthLengths (isLeap d.year)).take (d.month - 1)) + d.day - 1 -
    epochDay

def monthAndDay (month : Nat) (day : Nat) : List Nat → Nat × Nat
  | [] => (month, day + 1)
  | n :: rest => if day < n then (month, day + 1) else monthAndDay (month + 1) (day - n) rest

def ofDays (n : Int) : Date :=
  let n := n + epochDay
  let inEra := (n % 146097).toNat
  let century := min (inEra / 36524) 3
  let inCentury := inEra - century * 36524
  let inQuad := inCentury % 1461
  let yearOfQuad := min (inQuad / 365) 3
  let year : Int :=
    400 * (n / 146097) + (100 * century + 4 * (inCentury / 1461) + yearOfQuad + 1 : Nat)
  let (month, day) := monthAndDay 1 (inQuad - yearOfQuad * 365) (monthLengths (isLeap year))
  { year, month, day }

def yearText (y : Int) : List Char :=
  if 0 ≤ y && y ≤ 9999 then padded 4 y.toNat
  else if y < 0 then '-' :: padded 4 y.natAbs
  else '+' :: padded 4 y.toNat

def text (d : Date) : List Char :=
  yearText d.year ++ '-' :: padded 2 d.month ++ '-' :: padded 2 d.day

def leadingDigits : Nat → List Char → List Char × List Char
  | 0, s => ([], s)
  | _ + 1, [] => ([], [])
  | n + 1, c :: s =>
    if isDigit c then let r := leadingDigits n s; (c :: r.1, r.2) else ([], c :: s)

def readNumber (width : Nat) (s : List Char) : Option (Nat × List Char) :=
  let r := leadingDigits width (trimLeft s)
  if r.1.isEmpty then none else some (ofDigits r.1, r.2)

def readYear (s : List Char) : Option (Int × List Char) :=
  let signed := fun (negative : Bool) (s : List Char) =>
    let ds := s.takeWhile isDigit
    if ds.isEmpty then none
    else
      let y : Int := ofDigits ds
      some (if negative then -y else y, s.dropWhile isDigit)
  match trimLeft s with
  | '-' :: rest => signed true rest
  | '+' :: rest => signed false rest
  | rest => (readNumber 4 rest).map fun r => (r.1, r.2)

def read? (s : List Char) : Option Date :=
  match readYear s with
  | some (year, '-' :: s) =>
    match readNumber 2 s with
    | some (month, '-' :: s) =>
      match readNumber 2 s with
      | some (day, []) =>
        let d : Date := { year, month, day }
        if d.isValid then some d else none
      | _ => none
    | _ => none
  | _ => none

end Date

end Letterbox
