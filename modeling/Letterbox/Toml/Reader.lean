import Letterbox.Toml.Draft
import Letterbox.Toml.Scalar

namespace Letterbox.Toml

open Text

def isBareChar (c : Char) : Bool :=
  c.toNat < 128 && (c.isAlphanum || c == '_' || c == '-')

def readName (s : List Char) : Option (String × List Char) :=
  let bare := s.takeWhile isBareChar
  if !bare.isEmpty then some (String.ofList bare, s.dropWhile isBareChar)
  else
    let ofChars := fun (r : List Char × List Char) => (String.ofList r.1, r.2)
    match s with
    | '"' :: rest => (readBasic (rest.length + 1) rest).map ofChars
    | c :: rest => if isApostrophe c then (readLiteral rest).map ofChars else none
    | [] => none

def readPath : Nat → List Char → Option (List String × List Char)
  | 0, _ => none
  | fuel + 1, s => do
    let (name, rest) ← readName (skipSpace s)
    match skipSpace rest with
    | '.' :: rest => (readPath fuel rest).map fun r => (name :: r.1, r.2)
    | rest => some ([name], rest)

def isWordChar (c : Char) : Bool :=
  isBareChar c || c == '+' || c == '.'

def readWord (s : List Char) : Option (Toml × List Char) :=
  let word := s.takeWhile isWordChar
  let rest := s.dropWhile isWordChar
  match String.ofList word with
  | "true" => some (.bool true, rest)
  | "false" => some (.bool false, rest)
  | _ => (number? word).map fun v => (v, rest)

mutual

def readValue : Nat → List Char → Option (Toml × List Char)
  | 0, _ => none
  | fuel + 1, s =>
    match s with
    | [] => none
    | '[' :: rest => (readItems fuel rest).map fun r => (.array r.1, r.2)
    | '\x7b' :: rest =>
      match skipSpace rest with
      | '\x7d' :: rest => some (.table [], rest)
      | rest => (readFields fuel Draft.empty rest).map fun r => (r.1.toToml, r.2)
    | c :: rest =>
      if c == '"' || isApostrophe c then
        (readString (c :: rest)).map fun r => (.string (String.ofList r.1), r.2)
      else if looksLikeMoment s then readMoment s
      else readWord s

def readItems : Nat → List Char → Option (List Toml × List Char)
  | 0, _ => none
  | fuel + 1, s => do
    match ← skipLines (s.length + 1) s with
    | ']' :: rest => some ([], rest)
    | rest =>
      let (v, rest) ← readValue fuel rest
      match ← skipLines (rest.length + 1) rest with
      | ',' :: rest => (readItems fuel rest).map fun r => (v :: r.1, r.2)
      | ']' :: rest => some ([v], rest)
      | _ => none

def readFields : Nat → Draft → List Char → Option (Draft × List Char)
  | 0, _, _ => none
  | fuel + 1, t, s => do
    let (path, rest) ← readPath (s.length + 1) s
    let rest ← mark? '=' rest
    let (v, rest) ← readValue fuel (skipSpace rest)
    let t ← t.insert path v
    match skipSpace rest with
    | ',' :: rest => readFields fuel t rest
    | '\x7d' :: rest => some (t, rest)
    | _ => none

end

def readHeader (closing : List Char) (s : List Char) : Option (List String × List Char) := do
  let (path, rest) ← readPath (s.length + 1) s
  if closing.isPrefixOf rest then some (path, rest.drop closing.length) else none

def readLines : Nat → List String → Draft → List Char → Option Draft
  | 0, _, _, _ => none
  | fuel + 1, current, root, s =>
    match skipSpace s with
    | [] => some root
    | '[' :: '[' :: rest => do
      let (path, rest) ← readHeader [']', ']'] rest
      let root ← root.openElement path
      readLines fuel path root (← endLine? rest)
    | '[' :: rest => do
      let (path, rest) ← readHeader [']'] rest
      let root ← root.openTable path
      readLines fuel path root (← endLine? rest)
    | rest =>
      match endLine? rest with
      | some rest => readLines fuel current root rest
      | none => do
        let (path, rest) ← readPath (rest.length + 1) rest
        let rest ← mark? '=' rest
        let (v, rest) ← readValue (rest.length + 1) (skipSpace rest)
        let root ← Draft.descend false (Draft.insert path v) current root
        readLines fuel current root (← endLine? rest)

def dropMark : List Char → List Char
  | '\uFEFF' :: rest => rest
  | s => s

def parse? (s : String) : Option Toml :=
  let s := dropMark s.toList
  (readLines (s.length + 1) [] .empty s).map Draft.toToml

end Letterbox.Toml
