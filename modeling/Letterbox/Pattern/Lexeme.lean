import Letterbox.Pattern.Flags

namespace Letterbox.Pattern

open Text

def skipVerbose : Bool → List Char → List Char
  | _, [] => []
  | false, c :: rest =>
    if isBlank c then skipVerbose false rest
    else if c == '#' then skipVerbose true rest
    else c :: rest
  | true, c :: rest => skipVerbose (c != '\n') rest

def Flags.skip (f : Flags) (s : List Char) : List Char :=
  if f.verbose then skipVerbose false s else s

inductive Lexeme where
  | char (c : Char) (asByte : Bool)
  | set (s : CharSet)
  | look (what : Look)
  deriving Repr

def charOf? (n : Nat) : Option Char :=
  if n < 0xD800 || (0xE000 ≤ n && n ≤ 0x10FFFF) then some (Char.ofNat n) else none

def readHexDigits (f : Flags) : Nat → Nat → List Char → Option (Nat × List Char)
  | 0, n, s => some (n, s)
  | k + 1, n, s =>
    match s with
    | [] => none
    | c :: rest =>
      match hexValue? c with
      | some v => readHexDigits f k (n * 16 + v) (f.skip rest)
      | none => none

def readBraced (f : Flags) : Nat → List Char → Option (List Char × List Char)
  | 0, _ => none
  | fuel + 1, s =>
    match f.skip s with
    | [] => none
    | c :: rest =>
      if c == '\x7d' then some ([], rest)
      else (readBraced f fuel rest).map fun r => (c :: r.1, r.2)

def braced (f : Flags) (s : List Char) : Option (List Char × List Char) :=
  readBraced f (s.length + 1) s

def hexNumber? (s : List Char) : Option Nat :=
  if s.isEmpty then none
  else s.foldlM (fun n c => (hexValue? c).map (n * 16 + ·)) 0

def readHex (f : Flags) (letter : Char) (s : List Char) : Option (Lexeme × List Char) := do
  match f.skip s with
  | '\x7b' :: rest =>
    let (body, rest) ← braced f rest
    let c ← charOf? (← hexNumber? body)
    return (.char c false, f.skip rest)
  | s =>
    let digits := if letter == 'x' then 2 else if letter == 'u' then 4 else 8
    let (n, rest) ← readHexDigits f digits 0 s
    return (.char (← charOf? n) (letter == 'x'), rest)

def splitMark (mark : List Char) : List Char → Option (List Char × List Char)
  | [] => none
  | c :: rest =>
    if (c :: rest).take mark.length == mark then some ([], (c :: rest).drop mark.length)
    else (splitMark mark rest).map fun r => (c :: r.1, r.2)

def propertySet? (body : List Char) : Option (CharSet × Bool) :=
  match splitMark ['!', '='] body with
  | some (p, v) => (valueSet? p v).map fun s => (s, true)
  | none =>
    match splitMark [':'] body with
    | some (p, v) => (valueSet? p v).map fun s => (s, false)
    | none =>
      match splitMark ['='] body with
      | some (p, v) => (valueSet? p v).map fun s => (s, false)
      | none => (namedSet? body).map fun s => (s, false)

def readProperty (f : Flags) (negated : Bool) (s : List Char) : Option (Lexeme × List Char) := do
  if !f.unicode then none
  else match f.skip s with
    | [] => none
    | '\x7b' :: rest =>
      let (body, rest) ← braced f rest
      let (set, inverse) ← propertySet? body
      return (.set (f.meant (negated != inverse) set), rest)
    | c :: rest =>
      if c == '\\' then none
      else return (.set (f.meant negated (← namedSet? [c])), f.skip rest)

def edgeName? (name : List Char) : Option WordEdge :=
  if name == "start".toList then some .start
  else if name == "end".toList then some .stop
  else if name == "start-half".toList then some .startHalf
  else if name == "end-half".toList then some .stopHalf
  else none

def isEdgeChar (c : Char) : Bool :=
  c.isAlpha || c == '-'

def readEdge (f : Flags) (s : List Char) : Option (Lexeme × List Char) :=
  match s with
  | '\x7b' :: rest =>
    match f.skip rest with
    | [] => none
    | c :: _ =>
      if !isEdgeChar c then some (.look (.word f.unicode .boundary), s)
      else do
        let (name, rest) ← braced f rest
        return (.look (.word f.unicode (← edgeName? name)), rest)
  | _ => some (.look (.word f.unicode .boundary), s)

def readEscape (f : Flags) : List Char → Option (Lexeme × List Char)
  | [] => none
  | c :: rest =>
    if isDigit c then none
    else if c == 'x' || c == 'u' || c == 'U' then readHex f c rest
    else if c == 'p' || c == 'P' then readProperty f (c == 'P') rest
    else if c == 'd' || c == 's' || c == 'w' then some (.set (f.letterSet c), rest)
    else if c == 'D' || c == 'S' || c == 'W' then
      some (.set ((f.letterSet c.toLower).complement f.top), rest)
    else match c with
      | 'a' => some (.char '\x07' false, rest)
      | 'f' => some (.char '\x0c' false, rest)
      | 't' => some (.char '\t' false, rest)
      | 'n' => some (.char '\n' false, rest)
      | 'r' => some (.char '\r' false, rest)
      | 'v' => some (.char '\x0b' false, rest)
      | 'A' => some (.look .start, rest)
      | 'z' => some (.look .stop, rest)
      | 'b' => readEdge f rest
      | 'B' => some (.look (.word f.unicode .inside), rest)
      | '<' => some (.look (.word f.unicode .start), rest)
      | '>' => some (.look (.word f.unicode .stop), rest)
      | c => if c.toNat < 128 && !c.isAlphanum then some (.char c false, rest) else none

def readDigits (f : Flags) : Nat → List Char → List Char × List Char
  | 0, s => ([], s)
  | fuel + 1, s =>
    match s with
    | c :: rest =>
      if isDigit c then
        let r := readDigits f fuel (f.skip rest)
        (c :: r.1, r.2)
      else ([], s)
    | [] => ([], [])

def readCount (f : Flags) (s : List Char) : Option (Nat × List Char) :=
  let (digits, rest) := readDigits f s.length (trimLeft s)
  if digits.isEmpty || 4294967296 ≤ ofDigits digits then none
  else some (ofDigits digits, f.skip (trimLeft rest))

def readBounds (f : Flags) (s : List Char) : Option ((Nat × Option Nat) × List Char) := do
  let (least, rest) ← readCount f (f.skip s)
  match rest with
  | '\x7d' :: rest => return ((least, some least), f.skip rest)
  | ',' :: rest =>
    match f.skip rest with
    | '\x7d' :: rest => return ((least, none), f.skip rest)
    | rest =>
      let (most, rest) ← readCount f rest
      match rest with
      | '\x7d' :: rest => if most < least then none else return ((least, some most), f.skip rest)
      | _ => none
  | _ => none

def readName (first : Bool) : List Char → Option (List Char × List Char)
  | [] => none
  | c :: rest =>
    if c == '>' then if first then none else some ([], rest)
    else
      let ok := c == '_' || (if first then alphabeticSet.contains c.toNat
        else c == '.' || c == '[' || c == ']' || alphanumericSet.contains c.toNat)
      if ok then (readName false rest).map fun r => (c :: r.1, r.2) else none

structure Switches where
  flags : Flags
  named : Bool
  closed : Bool

def readSwitches (f : Flags) (seen : List Char) (afterDash : Bool) :
    List Char → Option (Switches × List Char)
  | [] => none
  | c :: rest =>
    if c == ':' || c == ')' then
      if afterDash then none else some (⟨f, !seen.isEmpty, c == ')'⟩, rest)
    else if seen.contains c then none
    else if c == '-' then readSwitches f (c :: seen) true rest
    else match f.set? c (!seen.contains '-') with
      | some f => readSwitches f (c :: seen) false rest
      | none => none

end Letterbox.Pattern
