import Letterbox.Time.Calendar
import Letterbox.Time.Instant

namespace Letterbox.Instant

open Text

def fractionText (nanos : Nat) : List Char :=
  if nanos == 0 then []
  else if nanos % 1000000 == 0 then '.' :: padded 3 (nanos / 1000000)
  else if nanos % 1000 == 0 then '.' :: padded 6 (nanos / 1000)
  else '.' :: padded 9 nanos

def isLeapSecond (t : Instant) : Bool :=
  1000000000 ≤ t.nanos

def chars (t : Instant) : List Char :=
  let ofDay := (t.seconds % 86400).toNat
  let leap := if t.isLeapSecond then 1 else 0
  (Date.ofDays (t.seconds / 86400)).text ++
    'T' :: padded 2 (ofDay / 3600) ++
    ':' :: padded 2 (ofDay / 60 % 60) ++
    ':' :: padded 2 (ofDay % 60 + leap) ++
    fractionText (t.nanos - leap * 1000000000) ++ ['Z']

def text (t : Instant) : String :=
  String.ofList t.chars

def afterMark? (c : Char) (s : List Char) : Option (List Char) :=
  match trimLeft s with
  | d :: rest => if d == c then some rest else none
  | [] => none

def readDate (s : List Char) : Option (Date × List Char) := do
  let (year, s) ← Date.readYear s
  let s ← afterMark? '-' s
  let (month, s) ← Date.readNumber 2 s
  let s ← afterMark? '-' s
  let (day, s) ← Date.readNumber 2 s
  let d : Date := { year, month, day }
  if d.isValid then some (d, s) else none

def readFraction (s : List Char) : Option (Nat × List Char) :=
  match s with
  | '.' :: rest =>
    let ds := rest.takeWhile isDigit
    if ds.isEmpty then none
    else
      let nine := ds.take 9
      some (ofDigits nine * Nat.pow 10 (9 - nine.length), rest.dropWhile isDigit)
  | s => some (0, s)

def readTime (s : List Char) : Option ((Nat × Nat) × List Char) := do
  let (hour, s) ← Date.readNumber 2 s
  let s ← afterMark? ':' s
  let (minute, s) ← Date.readNumber 2 s
  let s ← afterMark? ':' s
  let (second, s) ← Date.readNumber 2 s
  let (nanos, s) ← readFraction s
  if hour < 24 && minute < 60 && second ≤ 60 then
    let leap := if second == 60 then 1 else 0
    some ((hour * 3600 + minute * 60 + second - leap, nanos + leap * 1000000000), s)
  else none

def readOffset (s : List Char) : Option (Int × List Char) :=
  let signed := fun (west : Bool) (s : List Char) =>
    match s with
    | a :: b :: rest =>
      match rest.dropWhile fun c => c == ':' || isBlank c with
      | c :: d :: rest =>
        if [a, b, c, d].all isDigit && digitValue c < 6 then
          let ahead : Int := ofDigits [a, b] * 3600 + ofDigits [c, d] * 60
          if ahead < 86400 then some (if west then -ahead else ahead, rest) else none
        else none
      | _ => none
    | _ => none
  match s with
  | 'Z' :: rest => some (0, rest)
  | 'z' :: rest => some (0, rest)
  | '+' :: rest => signed false rest
  | '-' :: rest => signed true rest
  | '−' :: rest => signed true rest
  | _ => none

def readZone (s : List Char) : Option (Int × List Char) :=
  if "UTC".toList == (s.take 3).map Char.toUpper then some (0, s.drop 3) else readOffset s

def firstSecond : Int :=
  (Date.mk Date.firstYear 1 1).toDays * 86400

def lastSecond : Int :=
  (Date.mk Date.lastYear 12 31).toDays * 86400 + 86399

def isDated (t : Instant) : Bool :=
  firstSecond ≤ t.seconds && t.seconds ≤ lastSecond && !t.isLeapSecond

def ofSeconds? (seconds : Int) : Option Instant :=
  let t : Instant := { seconds }
  if t.isDated then some t else none

def readChars (s : List Char) : Option Instant := do
  let (date, s) ← readDate s
  let s ← match s with
    | c :: rest => if c == 'T' || c == 't' || c == ' ' then some rest else none
    | [] => none
  let ((seconds, nanos), s) ← readTime s
  let (ahead, s) ← readZone (trimLeft s)
  let second : Int := date.toDays * 86400 + seconds - ahead
  if (trimLeft s).isEmpty && firstSecond ≤ second && second ≤ lastSecond then
    some { seconds := second, nanos }
  else none

def read? (s : String) : Option Instant :=
  readChars s.toList

end Letterbox.Instant
