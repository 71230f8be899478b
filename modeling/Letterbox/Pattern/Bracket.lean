import Letterbox.Pattern.Lexeme

namespace Letterbox.Pattern

inductive SetOp where
  | inter
  | diff
  | symmDiff
  deriving DecidableEq, Repr

structure SetDraft where
  negated : Bool := false
  before : Option (CharSet × Nat × SetOp) := none
  members : List (Nat × Nat) := []
  count : Nat := 0
  depth : Nat := 0

namespace SetDraft

def add (d : SetDraft) (ranges : List (Nat × Nat)) (depth : Nat) : SetDraft :=
  { d with members := d.members ++ ranges, count := d.count + 1, depth := max d.depth depth }

def current (d : SetDraft) : CharSet × Nat :=
  (.ofRanges d.members, if d.count ≤ 1 then d.depth else d.depth + 1)

def apply (f : Flags) (op : SetOp) (a b : CharSet) : CharSet :=
  match op with
  | .inter => .inter f.top (f.closed a) (f.closed b)
  | .diff => .diff f.top (f.closed a) (f.closed b)
  | .symmDiff => .symmDiff f.top (f.closed a) (f.closed b)

def total (f : Flags) (d : SetDraft) : CharSet × Nat :=
  match d.before with
  | none => d.current
  | some (s, depth, op) => (apply f op s d.current.1, max depth d.current.2 + 1)

def operate (f : Flags) (op : SetOp) (d : SetDraft) : SetDraft :=
  { negated := d.negated, before := some ((d.total f).1, (d.total f).2, op) }

end SetDraft

def asciiClasses : List (String × List (Nat × Nat)) := [
  ("alnum", [(48, 57), (65, 90), (97, 122)]), ("alpha", [(65, 90), (97, 122)]),
  ("ascii", [(0, 127)]), ("blank", [(9, 9), (32, 32)]), ("cntrl", [(0, 31), (127, 127)]),
  ("digit", [(48, 57)]), ("graph", [(33, 126)]), ("lower", [(97, 122)]), ("print", [(32, 126)]),
  ("punct", [(33, 47), (58, 64), (91, 96), (123, 126)]), ("space", [(9, 13), (32, 32)]),
  ("upper", [(65, 90)]), ("word", [(48, 57), (65, 90), (95, 95), (97, 122)]),
  ("xdigit", [(48, 57), (65, 70), (97, 102)])]

def readAsciiClass (f : Flags) (s : List Char) : Option (CharSet × List Char) := do
  match s with
  | ':' :: rest =>
    let negated := rest.head? == some '^'
    let rest := if negated then rest.drop 1 else rest
    match rest.dropWhile (· != ':') with
    | ':' :: ']' :: after =>
      let name := String.ofList (rest.takeWhile (· != ':'))
      let entry ← asciiClasses.find? fun e => e.1 == name
      return (f.meant negated ⟨entry.2⟩, after)
    | _ => none
  | _ => none

def readMember (f : Flags) : List Char → Option (Lexeme × List Char)
  | [] => none
  | c :: rest => if c == '\\' then readEscape f rest else some (.char c false, rest)

def memberNumber? (f : Flags) : Lexeme → Option Nat
  | .char c asByte => if f.unicode || c.toNat < 128 || asByte then some c.toNat else none
  | _ => none

def memberRanges? (f : Flags) : Lexeme → Option (List (Nat × Nat))
  | .char c asByte => (memberNumber? f (.char c asByte)).map fun n => [(n, n)]
  | .set s => some s.ranges
  | .look _ => none

def joinsRange (f : Flags) (afterDash : List Char) : Bool :=
  match f.skip afterDash with
  | c :: _ => c != ']' && c != '-'
  | [] => true

def readMembers (f : Flags) (s : List Char) : Option (List (Nat × Nat) × List Char) := do
  let (first, rest) ← readMember f s
  match f.skip rest with
  | [] => none
  | '-' :: after =>
    if joinsRange f after then
      let (last, rest) ← readMember f (f.skip after)
      let low ← memberNumber? f first
      let high ← memberNumber? f last
      if high < low then none else return ([(low, high)], rest)
    else return (← memberRanges? f first, '-' :: after)
  | rest => return (← memberRanges? f first, rest)

def readDashes (f : Flags) (d : SetDraft) : Nat → List Char → SetDraft × List Char
  | 0, s => (d, s)
  | fuel + 1, s =>
    match s with
    | '-' :: rest => readDashes f (d.add [(45, 45)] 0) fuel (f.skip rest)
    | s => (d, s)

def openSet (f : Flags) (s : List Char) : SetDraft × List Char :=
  let (negated, rest) := match f.skip s with
    | '^' :: rest => (true, f.skip rest)
    | rest => (false, rest)
  let (d, rest) := readDashes f { negated } rest.length rest
  match rest with
  | ']' :: after => if d.count == 0 then (d.add [(93, 93)] 0, f.skip after) else (d, rest)
  | rest => (d, rest)

def readSetRest (f : Flags) : Nat → SetDraft → List Char → Option ((CharSet × Nat) × List Char)
  | 0, _, _ => none
  | fuel + 1, d, s =>
    match f.skip s with
    | [] => none
    | ']' :: rest => some ((f.meant d.negated (d.total f).1, (d.total f).2 + 1), rest)
    | '[' :: rest =>
      match readAsciiClass f rest with
      | some (set, rest) => readSetRest f fuel (d.add set.ranges 0) rest
      | none => do
        let (inner, rest) := openSet f rest
        let ((set, depth), rest) ← readSetRest f fuel inner rest
        readSetRest f fuel (d.add set.ranges depth) rest
    | '&' :: '&' :: rest => readSetRest f fuel (d.operate f .inter) rest
    | '-' :: '-' :: rest => readSetRest f fuel (d.operate f .diff) rest
    | '~' :: '~' :: rest => readSetRest f fuel (d.operate f .symmDiff) rest
    | s => do
      let (ranges, rest) ← readMembers f s
      readSetRest f fuel (d.add ranges 0) rest

def readSet (f : Flags) (s : List Char) : Option ((CharSet × Nat) × List Char) :=
  let (d, rest) := openSet f s
  readSetRest f (s.length + 1) d rest

end Letterbox.Pattern
