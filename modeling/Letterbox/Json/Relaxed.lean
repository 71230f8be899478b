import Letterbox.Json.Parser

namespace Letterbox.Json.Relaxed

open Text

def isBlank (c : Char) : Bool :=
  let n := c.toNat
  (9 ≤ n && n ≤ 13) || n == 32 || n == 0xA0 || n == 0x1680 || (0x2000 ≤ n && n ≤ 0x200A) ||
    n == 0x2028 || n == 0x2029 || n == 0x202F || n == 0x205F || n == 0x3000 || n == 0xFEFF

def isLineEnd (c : Char) : Bool :=
  c == '\n' || c == '\r' || c.toNat == 0x2028 || c.toNat == 0x2029

def afterComment? : List Char → Option (List Char)
  | '*' :: '/' :: rest => some rest
  | _ :: rest => afterComment? rest
  | [] => none

def skipBlanks : Nat → List Char → List Char
  | 0, s => s
  | _ + 1, [] => []
  | fuel + 1, '/' :: '*' :: rest =>
    match afterComment? rest with
    | some rest => skipBlanks fuel rest
    | none => '/' :: '*' :: rest
  | fuel + 1, '/' :: '/' :: rest => skipBlanks fuel ((rest.dropWhile (!isLineEnd ·)).drop 1)
  | fuel + 1, c :: rest => if isBlank c then skipBlanks fuel rest else c :: rest

def skip (s : List Char) : List Char :=
  skipBlanks s.length s

def isLetter (c : Char) : Bool :=
  (65 ≤ c.toNat && c.toNat ≤ 90) || (97 ≤ c.toNat && c.toNat ≤ 122)

def isAlphanumeric (c : Char) : Bool :=
  isLetter c || isDigit c

def quoteMark : Char := '"'

def apostrophe : Char := Char.ofNat 39

def escape? : List Char → Option (List Char × List Char)
  | 'u' :: rest => (parseUnicodeEscape rest).map fun (c, rest) => ([c.getD '\uFFFD'], rest)
  | 'x' :: a :: b :: rest => do return ([Char.ofNat ((← hexValue? a) * 16 + (← hexValue? b))], rest)
  | '0' :: rest => some (['\x00'], rest)
  | 'v' :: rest => some (['\x0b'], rest)
  | '\r' :: '\n' :: rest => some ([], rest)
  | c :: rest =>
    if c == apostrophe then some ([c], rest)
    else if isLineEnd c then some ([], rest)
    else (simpleEscape? c).map fun c => ([c], rest)
  | [] => none

def stringBody (mark : Char) : Nat → List Char → Option (List Char × List Char)
  | 0, _ => none
  | _ + 1, [] => none
  | fuel + 1, c :: rest =>
    if c == mark then some ([], rest)
    else if c == '\\' then do
      let (cs, rest) ← escape? rest
      let (body, rest) ← stringBody mark fuel rest
      return (cs ++ body, rest)
    else do
      let (body, rest) ← stringBody mark fuel rest
      return (c :: body, rest)

def string? : List Char → Option (String × List Char)
  | [] => none
  | c :: rest =>
    if c == quoteMark || c == apostrophe then
      (stringBody c (rest.length + 1) rest).map fun (body, rest) => (String.ofList body, rest)
    else none

def word? (s : List Char) : Option (Json × List Char) :=
  let name := s.takeWhile isAlphanumeric
  let rest := s.dropWhile isAlphanumeric
  match String.ofList name, String.ofList (name.map Char.toLower) with
  | "null", _ => some (.null, rest)
  | "true", _ => some (.bool true, rest)
  | "false", _ => some (.bool false, rest)
  | _, "inf" => some (.raw "9e999", rest)
  | _, "infinity" => some (.raw "9e999", rest)
  | _, "nan" => some (.null, rest)
  | _, "qnan" => some (.null, rest)
  | _, "snan" => some (.null, rest)
  | _, _ => none

def splitPlus : List Char → List Char × List Char
  | '+' :: rest => ([], rest)
  | s => splitSign s

def ofHex (s : List Char) : Nat :=
  s.foldl (fun n c => n * 16 + (hexValue? c).getD 0) 0

def hexNumber (negative : Bool) (ds : List Char) : Json :=
  if 16 < (ds.dropWhile (· == '0')).length then
    .raw (if negative then "-9e999" else "9e999")
  else
    let i := (UInt64.ofNat (ofHex ds)).toInt64
    .int (if negative then -i else i).toInt

def unsigned? (sign : List Char) (s : List Char) : Option (Json × List Char) := do
  let whole := s.takeWhile isDigit
  let rest := s.dropWhile isDigit
  let (fraction, rest) := match rest with
    | '.' :: rest => (some (rest.takeWhile isDigit), rest.dropWhile isDigit)
    | rest => (none, rest)
  let (exponent, rest) ← parseExponent rest
  if whole.isEmpty && (fraction.getD []).isEmpty then none
  else if whole.head? == some '0' && whole.length > 1 then none
  else if fraction.isNone && exponent.isEmpty then
    return (.int (if sign.isEmpty then ofDigits whole else -ofDigits whole), rest)
  else
    let shown (ds : List Char) := if ds.isEmpty then ['0'] else ds
    let fraction := match fraction with
      | some ds => '.' :: shown ds
      | none => []
    return (.raw (String.ofList (sign ++ shown whole ++ fraction ++ exponent)), rest)

def number? (s : List Char) : Option (Json × List Char) :=
  let (sign, rest) := splitPlus s
  let infinite : Json := .raw (if sign.isEmpty then "9e999" else "-9e999")
  match rest with
  | '0' :: x :: rest' =>
    if (x == 'x' || x == 'X') && (rest'.head?.bind hexValue?).isSome then
      let ds := rest'.takeWhile fun c => (hexValue? c).isSome
      some (hexNumber (!sign.isEmpty) ds, rest'.drop ds.length)
    else unsigned? sign rest
  | _ =>
    let begins (n : Nat) : String := String.ofList ((rest.take n).map Char.toLower)
    match begins 8, begins 3 with
    | "infinity", _ => some (infinite, rest.drop 8)
    | _, "inf" => some (infinite, rest.drop 3)
    | _, _ => unsigned? sign rest

def isNamePart (c : Char) : Bool :=
  isAlphanumeric c || c == '_' || c == '$' || (128 ≤ c.toNat && !isBlank c)

def bareName : Nat → List Char → List Char × List Char
  | 0, s => ([], s)
  | _ + 1, [] => ([], [])
  | fuel + 1, '\\' :: 'u' :: rest =>
    match parseUnicodeEscape rest with
    | some (c, rest) =>
      let (name, rest) := bareName fuel rest
      (c.getD '\uFFFD' :: name, rest)
    | none => ([], '\\' :: 'u' :: rest)
  | fuel + 1, c :: rest =>
    if isNamePart c then
      let (name, rest) := bareName fuel rest
      (c :: name, rest)
    else ([], c :: rest)

def label? (s : List Char) : Option (String × List Char) :=
  (string? s).orElse fun _ =>
    let (name, rest) := bareName s.length s
    if name.isEmpty || (s.head?.map isDigit).getD false || (word? s).isSome then none
    else some (String.ofList name, rest)

mutual

/-- One value with nothing blank in front of it, with so many levels of nesting left. -/
def value? : Nat → Nat → List Char → Option (Json × List Char)
  | _, 0, _ => none
  | room, fuel + 1, s =>
    match s, room with
    | '[' :: _, 0 => none
    | '\x7b' :: _, 0 => none
    | '[' :: rest, room + 1 => (items? room fuel (skip rest)).map fun r => (.array r.1, r.2)
    | '\x7b' :: rest, room + 1 => (fields? room fuel (skip rest)).map fun r => (.object r.1, r.2)
    | s, _ => ((string? s).map fun r => (.string r.1, r.2)).orElse fun _ =>
        (word? s).orElse fun _ => number? s

def items? : Nat → Nat → List Char → Option (List Json × List Char)
  | _, 0, _ => none
  | _, _ + 1, ']' :: rest => some ([], rest)
  | room, fuel + 1, s =>
    match value? room fuel s with
    | none => none
    | some (v, rest) =>
      match skip rest with
      | ',' :: rest => (items? room fuel (skip rest)).map fun r => (v :: r.1, r.2)
      | ']' :: rest => some ([v], rest)
      | _ => none

def fields? : Nat → Nat → List Char → Option (List (String × Json) × List Char)
  | _, 0, _ => none
  | _, _ + 1, '\x7d' :: rest => some ([], rest)
  | room, fuel + 1, s =>
    match label? s with
    | none => none
    | some (k, rest) =>
      match skip rest with
      | ':' :: rest =>
        match value? room fuel (skip rest) with
        | none => none
        | some (v, rest) =>
          match skip rest with
          | ',' :: rest => (fields? room fuel (skip rest)).map fun r => ((k, v) :: r.1, r.2)
          | '\x7d' :: rest => some ([(k, v)], rest)
          | _ => none
      | _ => none

end

def nestingLimit : Nat := 1000

def parse? (s : String) : Option Json :=
  let s := s.toList.takeWhile (· != '\x00')
  match value? nestingLimit (s.length + 1) (skip s) with
  | some (v, rest) => if (skip rest).isEmpty then some v else none
  | none => none

def reread : Json → Json
  | .raw s => (parse? s).getD .null
  | v => v

end Letterbox.Json.Relaxed
