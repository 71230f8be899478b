import Letterbox.Time.Calendar
import Letterbox.Toml.Basic

namespace Letterbox.Toml

open Text

def isSpace (c : Char) : Bool :=
  c == ' ' || c == '\t'

def skipSpace (s : List Char) : List Char :=
  s.dropWhile isSpace

def afterNewline? : List Char → Option (List Char)
  | '\n' :: rest => some rest
  | '\r' :: '\n' :: rest => some rest
  | _ => none

def isPrintable (c : Char) : Bool :=
  c == '\t' || (0x20 ≤ c.toNat && c.toNat ≠ 0x7F)

def skipComment : List Char → List Char
  | '#' :: rest => rest.dropWhile isPrintable
  | s => s

def endLine? (s : List Char) : Option (List Char) :=
  match skipComment (skipSpace s) with
  | [] => some []
  | rest => afterNewline? rest

def skipLines : Nat → List Char → Option (List Char)
  | 0, _ => none
  | fuel + 1, s =>
    match skipSpace s with
    | '#' :: rest =>
      match skipComment ('#' :: rest) with
      | [] => some []
      | rest => (afterNewline? rest).bind (skipLines fuel)
    | rest =>
      match afterNewline? rest with
      | some rest => skipLines fuel rest
      | none => some rest

def isScalarValue (n : Nat) : Bool :=
  n < 0xD800 || (0xE000 ≤ n && n < 0x110000)

def readHexChar (width : Nat) (s : List Char) : Option (Char × List Char) := do
  let ds ← (s.take width).mapM hexValue?
  let n := ds.foldl (fun n d => n * 16 + d) 0
  if ds.length == width && isScalarValue n then some (Char.ofNat n, s.drop width) else none

def readEscape : List Char → Option (Char × List Char)
  | 'b' :: rest => some (Char.ofNat 8, rest)
  | 't' :: rest => some ('\t', rest)
  | 'n' :: rest => some ('\n', rest)
  | 'f' :: rest => some (Char.ofNat 12, rest)
  | 'r' :: rest => some ('\r', rest)
  | '"' :: rest => some ('"', rest)
  | '\\' :: rest => some ('\\', rest)
  | 'u' :: rest => readHexChar 4 rest
  | 'U' :: rest => readHexChar 8 rest
  | _ => none

def readBasic : Nat → List Char → Option (List Char × List Char)
  | 0, _ => none
  | _ + 1, [] => none
  | fuel + 1, c :: rest =>
    if c == '"' then some ([], rest)
    else if c == '\\' then do
      let (d, rest) ← readEscape rest
      let (body, rest) ← readBasic fuel rest
      return (d :: body, rest)
    else if isPrintable c then do
      let (body, rest) ← readBasic fuel rest
      return (c :: body, rest)
    else none

def isApostrophe (c : Char) : Bool :=
  c.toNat == 39

def readLiteral : List Char → Option (List Char × List Char)
  | [] => none
  | c :: rest =>
    if isApostrophe c then some ([], rest)
    else if isPrintable c then (readLiteral rest).map fun r => (c :: r.1, r.2)
    else none

def joinLine? (s : List Char) : Option (List Char) :=
  (afterNewline? (skipSpace s)).map fun rest =>
    rest.dropWhile fun c => isSpace c || c == '\n' || c == '\r'

def closing? (isQuote : Char → Bool) (s : List Char) : Option (Nat × List Char) :=
  let n := (s.takeWhile isQuote).length
  if n < 3 then none else some (min n 5 - 3, s.drop (min n 5))

def readBasicLines : Nat → List Char → Option (List Char × List Char)
  | 0, _ => none
  | _ + 1, [] => none
  | fuel + 1, c :: rest =>
    match closing? (· == '"') (c :: rest) with
    | some (n, rest) => some (List.replicate n '"', rest)
    | none =>
      if c == '\\' then
        match joinLine? rest with
        | some rest => readBasicLines fuel rest
        | none => do
          let (d, rest) ← readEscape rest
          let (body, rest) ← readBasicLines fuel rest
          return (d :: body, rest)
      else
        match afterNewline? (c :: rest) with
        | some rest => (readBasicLines fuel rest).map fun r => ('\n' :: r.1, r.2)
        | none =>
          if isPrintable c then (readBasicLines fuel rest).map fun r => (c :: r.1, r.2) else none

def readLiteralLines : Nat → List Char → Option (List Char × List Char)
  | 0, _ => none
  | _ + 1, [] => none
  | fuel + 1, c :: rest =>
    match closing? isApostrophe (c :: rest) with
    | some (n, rest) => some (List.replicate n (Char.ofNat 39), rest)
    | none =>
      match afterNewline? (c :: rest) with
      | some rest => (readLiteralLines fuel rest).map fun r => ('\n' :: r.1, r.2)
      | none =>
        if isPrintable c then (readLiteralLines fuel rest).map fun r => (c :: r.1, r.2) else none

def dropNewline (s : List Char) : List Char :=
  (afterNewline? s).getD s

def readString (s : List Char) : Option (List Char × List Char) :=
  match s with
  | '"' :: '"' :: '"' :: rest => readBasicLines (rest.length + 1) (dropNewline rest)
  | '"' :: rest => readBasic (rest.length + 1) rest
  | c :: rest =>
    if !isApostrophe c then none
    else if 2 ≤ (rest.takeWhile isApostrophe).length then
      readLiteralLines (rest.length + 1) (dropNewline (rest.drop 2))
    else readLiteral rest
  | [] => none

def digitGroups (isDigit : Char → Bool) (s : List Char) : Option (List Char) :=
  let bad := s.isEmpty || s.head? == some '_' || s.getLast? == some '_' ||
    (s.zip (s.drop 1)).any (fun p => p.1 == '_' && p.2 == '_')
  let ds := s.filter (· != '_')
  if bad || !ds.all isDigit then none else some ds

def inRange (i : Int) : Option Toml :=
  if -9223372036854775808 ≤ i && i ≤ 9223372036854775807 then some (.integer i) else none

def ofBase (base : Nat) (ds : List Char) : Nat :=
  ds.foldl (fun n c => n * base + (hexValue? c).getD 0) 0

def isBaseDigit (base : Nat) (c : Char) : Bool :=
  (hexValue? c).any (· < base)

def basedInteger (base : Nat) (s : List Char) : Option Toml :=
  (digitGroups (isBaseDigit base) s).bind fun ds => inRange (ofBase base ds)

def wholeDigits (s : List Char) : Option (List Char) :=
  (digitGroups isDigit s).bind fun ds =>
    if ds.head? == some '0' && ds.length > 1 then none else some ds

def floatParts (s : List Char) : Option (List Char × List Char × Int) := do
  let isMark := fun c => c == 'e' || c == 'E'
  let mantissa := s.takeWhile fun c => !isMark c
  let whole ← wholeDigits (mantissa.takeWhile (· != '.'))
  let fraction ← match mantissa.dropWhile (· != '.') with
    | [] => some []
    | _ :: ds => digitGroups isDigit ds
  let exponent : Int ← match s.dropWhile fun c => !isMark c with
    | [] => some 0
    | _ :: '-' :: ds => (digitGroups isDigit ds).map fun ds => -(ofDigits ds : Int)
    | _ :: '+' :: ds => (digitGroups isDigit ds).map fun ds => (ofDigits ds : Int)
    | _ :: ds => (digitGroups isDigit ds).map fun ds => (ofDigits ds : Int)
  return (whole, fraction, exponent)

def float? (negative : Bool) (s : List Char) : Option Toml :=
  match String.ofList s with
  | "inf" => some (.float (.infinite negative))
  | "nan" => some (.float .notANumber)
  | _ =>
    (floatParts s).bind fun (whole, fraction, exponent) =>
      match Binary64.ofDecimal negative (whole ++ fraction) (exponent - fraction.length) with
      | .infinite false => none
      | x => some (.float x)

def decimal? (negative : Bool) (s : List Char) : Option Toml :=
  match wholeDigits s with
  | some ds =>
    let n : Int := ofDigits ds
    inRange (if negative then -n else n)
  | none => float? negative s

def number? : List Char → Option Toml
  | '0' :: 'x' :: ds => basedInteger 16 ds
  | '0' :: 'o' :: ds => basedInteger 8 ds
  | '0' :: 'b' :: ds => basedInteger 2 ds
  | '+' :: s => decimal? false s
  | '-' :: s => decimal? true s
  | s => decimal? false s

def twoDigits (bound : Nat) : List Char → Option (List Char × List Char)
  | a :: b :: rest =>
    if isDigit a && isDigit b && ofDigits [a, b] ≤ bound then some ([a, b], rest) else none
  | _ => none

def mark? (c : Char) : List Char → Option (List Char)
  | d :: rest => if d == c then some rest else none
  | [] => none

def readDate (s : List Char) : Option (List Char × List Char) := do
  let year := s.take 4
  if year.length == 4 && year.all isDigit then
    let rest ← mark? '-' (s.drop 4)
    let (month, rest) ← twoDigits 12 rest
    let rest ← mark? '-' rest
    let (day, rest) ← twoDigits 31 rest
    let date : Date := { year := ofDigits year, month := ofDigits month, day := ofDigits day }
    if date.isValid then some (date.text, rest) else none
  else none

def readTime (s : List Char) : Option (List Char × List Char) := do
  let (hour, rest) ← twoDigits 23 s
  let rest ← mark? ':' rest
  let (minute, rest) ← twoDigits 59 rest
  let rest ← mark? ':' rest
  let (second, rest) ← twoDigits 60 rest
  let clock := hour ++ ':' :: minute ++ ':' :: second
  match rest with
  | '.' :: ds =>
    let decimals := ds.takeWhile isDigit
    if decimals.isEmpty then none
    else
      let nine := decimals.take 9
      let kept := (nine.reverse.dropWhile (· == '0')).reverse
      let shown := if kept.isEmpty then [] else '.' :: kept
      some (clock ++ shown, ds.dropWhile isDigit)
  | rest => some (clock, rest)

def readZone (s : List Char) : Option (List Char × List Char) :=
  let signed := fun (sign : Char) (s : List Char) => do
    let (hour, rest) ← twoDigits 23 s
    let rest ← mark? ':' rest
    let (minute, rest) ← twoDigits 59 rest
    let sign := if (hour ++ minute).all (· == '0') then '+' else sign
    return (sign :: hour ++ ':' :: minute, rest)
  match s with
  | 'Z' :: rest => some (['Z'], rest)
  | 'z' :: rest => some (['Z'], rest)
  | '+' :: rest => signed '+' rest
  | '-' :: rest => signed '-' rest
  | rest => some ([], rest)

def looksLikeMoment (s : List Char) : Bool :=
  let ds := s.takeWhile isDigit
  (ds.length == 4 && s[4]? == some '-') || (ds.length == 2 && s[2]? == some ':')

def readMoment (s : List Char) : Option (Toml × List Char) := do
  if s[2]? == some ':' then
    let (time, rest) ← readTime s
    return (.moment (String.ofList time), rest)
  else
    let (date, rest) ← readDate s
    let onlyDate : Toml × List Char := (.moment (String.ofList date), rest)
    let withTime := fun (rest : List Char) => do
      let (time, rest) ← readTime rest
      let (zone, rest) ← readZone rest
      return (Toml.moment (String.ofList (date ++ 'T' :: time ++ zone)), rest)
    match rest with
    | 'T' :: rest => withTime rest
    | 't' :: rest => withTime rest
    | ' ' :: c :: rest => if isDigit c then withTime (c :: rest) else some onlyDate
    | _ => some onlyDate

end Letterbox.Toml
