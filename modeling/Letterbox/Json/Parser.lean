import Letterbox.Json.Basic
import Letterbox.Text.Decimal

namespace Letterbox.Json

open Letterbox.Text

def isSpace (c : Char) : Bool :=
  c == ' ' || c == '\n' || c == '\r' || c == '\t'

def skipSpace (s : List Char) : List Char :=
  s.dropWhile isSpace

def parseHex4 : List Char → Option (Nat × List Char)
  | a :: b :: c :: d :: rest => do
    let a ← hexValue? a
    let b ← hexValue? b
    let c ← hexValue? c
    let d ← hexValue? d
    return (((a * 16 + b) * 16 + c) * 16 + d, rest)
  | _ => none

def isHighSurrogate (n : Nat) : Bool :=
  0xD800 ≤ n && n < 0xDC00

def isLowSurrogate (n : Nat) : Bool :=
  0xDC00 ≤ n && n < 0xE000

def parseUnicodeEscape (s : List Char) : Option (Option Char × List Char) := do
  let (hi, rest) ← parseHex4 s
  if isLowSurrogate hi then return (none, rest)
  else if isHighSurrogate hi then
    match rest with
    | '\\' :: 'u' :: rest' =>
      let (lo, rest') ← parseHex4 rest'
      if isLowSurrogate lo then
        return (some (Char.ofNat (0x10000 + (hi - 0xD800) * 1024 + (lo - 0xDC00))), rest')
      else return (none, rest)
    | _ => return (none, rest)
  else return (some (Char.ofNat hi), rest)

def simpleEscape? (c : Char) : Option Char :=
  if c == '"' then some '"'
  else if c == '\\' then some '\\'
  else if c == '/' then some '/'
  else if c == 'b' then some (Char.ofNat 8)
  else if c == 'f' then some (Char.ofNat 12)
  else if c == 'n' then some '\n'
  else if c == 'r' then some '\r'
  else if c == 't' then some '\t'
  else none

def consChar (c : Option Char) (r : Option (List Char) × List Char) :
    Option (List Char) × List Char :=
  (c.bind fun c => r.1.map (c :: ·), r.2)

def parseStringBody : Nat → List Char → Option (Option (List Char) × List Char)
  | 0, _ => none
  | _ + 1, [] => none
  | fuel + 1, c :: rest =>
    if c == '"' then some (some [], rest)
    else if c == '\\' then
      match rest with
      | 'u' :: rest => do
        let (d, rest) ← parseUnicodeEscape rest
        return consChar d (← parseStringBody fuel rest)
      | e :: rest => do
        let d ← simpleEscape? e
        return consChar (some d) (← parseStringBody fuel rest)
      | [] => none
    else if c.toNat < 32 then none
    else do return consChar (some c) (← parseStringBody fuel rest)

def parseString (s : List Char) : Option (String × List Char) :=
  match s with
  | '"' :: rest =>
    match parseStringBody (rest.length + 1) rest with
    | some (some body, rest) => some (String.ofList body, rest)
    | _ => none
  | _ => none

def parseStringValue (s : List Char) : Option (Json × List Char) :=
  (parseStringBody (s.length + 1) s).map fun (body, rest) =>
    match body with
    | some body => (.string (String.ofList body), rest)
    | none => (.raw (String.ofList ('"' :: s.take (s.length - rest.length))), rest)

def splitSign : List Char → List Char × List Char
  | '-' :: rest => (['-'], rest)
  | s => ([], s)

def parseFraction : List Char → Option (List Char × List Char)
  | '.' :: rest =>
    let ds := rest.takeWhile isDigit
    if ds.isEmpty then none else some ('.' :: ds, rest.dropWhile isDigit)
  | s => some ([], s)

def splitExponentSign : List Char → List Char × List Char
  | '+' :: rest => (['+'], rest)
  | '-' :: rest => (['-'], rest)
  | s => ([], s)

def parseExponent : List Char → Option (List Char × List Char)
  | [] => some ([], [])
  | e :: rest =>
    if e == 'e' || e == 'E' then
      let (sign, rest) := splitExponentSign rest
      let ds := rest.takeWhile isDigit
      if ds.isEmpty then none else some (e :: sign ++ ds, rest.dropWhile isDigit)
    else some ([], e :: rest)

def numberOf (sign whole fraction exponent : List Char) : Json :=
  if fraction.isEmpty && exponent.isEmpty && (sign.isEmpty || ofDigits whole != 0) then
    .int (if sign.isEmpty then ofDigits whole else -ofDigits whole)
  else .raw (String.ofList (sign ++ whole ++ fraction ++ exponent))

def parseNumber (s : List Char) : Option (Json × List Char) := do
  let (sign, rest) := splitSign s
  let whole := rest.takeWhile isDigit
  if whole.isEmpty || (whole.head? == some '0' && whole.length > 1) then none
  else
    let (fraction, rest) ← parseFraction (rest.dropWhile isDigit)
    let (exponent, rest) ← parseExponent rest
    return (numberOf sign whole fraction exponent, rest)

mutual

def parseValue : Nat → List Char → Option (Json × List Char)
  | 0, _ => none
  | fuel + 1, s =>
    match s with
    | 'n' :: 'u' :: 'l' :: 'l' :: rest => some (.null, rest)
    | 't' :: 'r' :: 'u' :: 'e' :: rest => some (.bool true, rest)
    | 'f' :: 'a' :: 'l' :: 's' :: 'e' :: rest => some (.bool false, rest)
    | '"' :: rest => parseStringValue rest
    | '[' :: rest =>
      match skipSpace rest with
      | ']' :: rest => some (.array [], rest)
      | rest => (parseItems fuel rest).map fun r => (.array r.1, r.2)
    | '\x7b' :: rest =>
      match skipSpace rest with
      | '\x7d' :: rest => some (.object [], rest)
      | rest => (parseFields fuel rest).map fun r => (.object r.1, r.2)
    | s => parseNumber s

def parseItems : Nat → List Char → Option (List Json × List Char)
  | 0, _ => none
  | fuel + 1, s =>
    match parseValue fuel s with
    | none => none
    | some (v, rest) =>
      match skipSpace rest with
      | ',' :: rest => (parseItems fuel (skipSpace rest)).map fun r => (v :: r.1, r.2)
      | ']' :: rest => some ([v], rest)
      | _ => none

def parseFields : Nat → List Char → Option (List (String × Json) × List Char)
  | 0, _ => none
  | fuel + 1, s =>
    match parseString s with
    | none => none
    | some (k, rest) =>
      match skipSpace rest with
      | ':' :: rest =>
        match parseValue fuel (skipSpace rest) with
        | none => none
        | some (v, rest) =>
          match skipSpace rest with
          | ',' :: rest => (parseFields fuel (skipSpace rest)).map fun r => ((k, v) :: r.1, r.2)
          | '\x7d' :: rest => some ([(k, v)], rest)
          | _ => none
      | _ => none

end

def parseChars? (s : List Char) : Option Json :=
  match parseValue (s.length + 1) (skipSpace s) with
  | some (v, rest) => if (skipSpace rest).isEmpty then some v else none
  | none => none

def parse? (s : String) : Option Json :=
  parseChars? s.toList

end Letterbox.Json
