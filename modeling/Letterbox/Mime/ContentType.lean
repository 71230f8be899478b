import Letterbox.Mime.EncodedWord
import Letterbox.Text.Lowercase

namespace Letterbox.Mime

structure ContentType where
  kind : List Char
  subkind : Option (List Char)
  attributes : List (List Char × List Char)
  deriving DecidableEq, Repr

namespace ContentType

def attribute? (t : ContentType) (name : String) : Option (List Char) :=
  (t.attributes.find? fun a => a.1 == name.toList).map (·.2)

inductive Zone where
  | kind
  | subkind
  | name
  | value
  | quoted
  | comment
  deriving DecidableEq, Repr

structure Piece where
  name : List Char
  position : Nat
  value : List Char
  deriving DecidableEq, Repr

structure State where
  zone : Zone := .kind
  outer : List Zone := []
  kind : Option (List Char) := none
  subkind : Option (List Char) := none
  name : Option (List Char) := none
  charset : Option (List Char) := none
  position : Nat := 0
  values : List (List Char) := []
  attributes : List (List Char × List Char) := []
  pieces : List Piece := []
  token : Token := {}
  split : Bool := false
  encoded : Bool := false
  escaped : Bool := false
  lowerCase : Bool := true
  atStart : Bool := true

namespace State

def reset (st : State) : State :=
  { st with token := {}, atStart := true }

def fileName (st : State) : State :=
  if st.token.isOpen then
    let text := st.token.text
    let text := if st.lowerCase then text else Text.lower text
    let st' := { st.reset with lowerCase := true }
    match st.zone with
    | .kind => { st' with kind := some text }
    | .subkind => { st' with subkind := some text }
    | _ => { st' with name := some text }
  else st

def fileParameter (st : State) : State :=
  if st.token.isOpen then
    let text := st.token.text
    match st.charset with
    | none => { st.reset with charset := some text }
    | some _ =>
      let language := st.name.getD ['u', 'n', 'k', 'n', 'o', 'w', 'n'] ++ "-language".toList
      if st.attributes.any fun a => a.1 == language then
        { st.reset with values := st.values ++ [['\''], text] }
      else { st.reset with attributes := st.attributes ++ [(language, text)] }
  else st

def setAside (st : State) (upTo : Bool) : State :=
  if st.token.isOpen then
    let quoted := st.zone == .quoted
    let text := if quoted && upTo then Text.decode (st.token.gap ++ st.token.body).reverse
      else st.token.text
    { st.reset with values := st.values ++ [text] ++ (if quoted then [] else [[' ']]) }
  else st

def unpercent : Bytes → Option Bytes
  | [] => some []
  | 37 :: a :: b :: rest =>
    match hexByte? a, hexByte? b, unpercent rest with
    | some x, some y, some r => some ((x * 16 + y) :: r)
    | _, _, _ => none
  | 37 :: _ => none
  | b :: rest => (unpercent rest).map (b :: ·)

def decodeValue (st : State) (value : List Char) : List Char :=
  if st.encoded then
    match unpercent (Text.encode value) with
    | some bytes =>
      let charset := (st.charset.bind fun c => Charset.ofName? (Text.encode c)).getD Charset.utf8
      charset bytes
    | none => value
  else value

def fileValue (st : State) : State :=
  match st.name with
  | none => st
  | some name =>
    if !st.token.isOpen && st.values.isEmpty then st
    else
      let value := st.values.flatten ++ (if st.token.isOpen then st.token.text else [])
      let st' := { st.reset with name := none, values := [] }
      if !st.split then { st' with attributes := st.attributes ++ [(name, value)] }
      else
        let value := st.decodeValue value
        let st' := { st' with split := false, encoded := false, charset := none, position := 0 }
        if st.position > 0 then { st' with pieces := st.pieces ++ [⟨name, st.position, value⟩] }
        else { st' with attributes := st.attributes ++ [(name, value)] }

def readPosition (s : Bytes) : Nat :=
  if s.all isDigitByte && !s.isEmpty then
    let n := s.foldl (fun n b => n * 10 + (b.toNat - 48)) 0
    if n < 4294967296 then n else 0
  else 0

def filePosition (st : State) : State × Bool :=
  if st.token.isOpen then ({ st.reset with position := readPosition st.token.bytes }, true)
  else (st, false)

def push (st : State) (b : UInt8) : State :=
  { st with escaped := false, atStart := false, token := st.token.push b }

def skip (st : State) (b : UInt8) : State :=
  { st with token := st.token.skip b }

def blank (st : State) (b : UInt8) : State :=
  let st := { st with atStart := true }
  if st.zone = .quoted then { st with token := st.token.push b } else st.skip b

def endLine (st : State) (more : Bool) : State :=
  let st' := match st.zone with
    | .kind | .subkind | .name => st.fileName
    | .value => st.fileValue
    | .quoted => if more then st else st.fileValue
    | .comment => st
  if more then { st' with atStart := true } else st'

def isNaming (z : Zone) : Bool :=
  z = .kind || z = .subkind || z = .name

def semicolon (st : State) : State :=
  if isNaming st.zone then { st.fileName with zone := .name }
  else if st.zone = .value then
    if st.escaped then { st with escaped := false } else { st.fileValue with zone := .name }
  else st.push 59

def star (st : State) : State :=
  if !st.split then { st.fileName with split := st.token.isOpen }
  else if !st.encoded then { st.filePosition.1 with encoded := true }
  else st.reset

def equals (st : State) : State :=
  if st.zone = .name then
    if !st.split then
      if st.token.isOpen then { st.fileName with zone := .value } else st
    else if !st.encoded then
      let (st', found) := st.filePosition
      { st' with encoded := !found, zone := .value }
    else { st.reset with zone := .value }
  else st.push 61

def quote (st : State) : State :=
  if st.zone = .value then { st with atStart := true, zone := .quoted, token := st.token.skip 34 }
  else if st.zone = .quoted then
    if st.escaped then st.push 34 else { st.fileValue with zone := .name }
  else st.skip 34

def backslash (st : State) : State :=
  if st.zone = .quoted || st.zone = .value then
    if st.escaped then st.push 92 else { st.setAside true with escaped := true }
  else if st.zone = .comment then { st with escaped := !st.escaped }.push 92
  else st.skip 92

def openComment (st : State) : State :=
  if st.escaped then { st with escaped := false }
  else
    let st' := match st.zone with
      | .kind | .subkind | .name => st.fileName
      | .value => st.fileValue
      | _ => st
    { st' with outer := st.zone :: st.outer, zone := .comment }

def closeComment (st : State) : State :=
  if st.escaped then { st with escaped := false }
  else match st.outer with
    | z :: outer => { st.reset with zone := z, outer := outer }
    | [] => st.reset

def step (st : State) (b : UInt8) : State :=
  if isFold b then st.blank b
  else if b == 10 then st.endLine true
  else if b == 47 && st.zone = .kind then { st.fileName with zone := .subkind }
  else if b == 59 then st.semicolon
  else if b == 42 && st.zone = .name then st.star
  else if b == 61 then st.equals
  else if b == 34 then st.quote
  else if b == 92 then st.backslash
  else if b == 39 && st.encoded && !st.escaped && (st.zone = .value || st.zone = .quoted) then
    st.fileParameter
  else if b == 40 && st.zone != .quoted then st.openComment
  else if b == 41 && st.zone = .comment then st.closeComment
  else if b == 13 then st.skip b
  else if isUpperByte b && isNaming st.zone then { st with lowerCase := false }.push b
  else st.push b

def addWord (st : State) (w : List Char) : State :=
  let st := st.setAside false
  { st with values := st.values ++ [w] }

end State

def run : Nat → State → Bytes → State
  | 0, st, _ => st
  | _ + 1, st, [] => st
  | fuel + 1, st, b :: rest =>
    if b == 61 && st.atStart && (st.zone = .value || st.zone = .quoted) then
      match EncodedWord.read rest with
      | some (w, rest) => run fuel (st.addWord w) rest
      | none => run fuel (st.step b) rest
    else run fuel (st.step b) rest

def Piece.before (a b : Piece) : Bool :=
  a.name < b.name || (a.name == b.name &&
    (a.position < b.position ||
      (a.position == b.position && (a.value < b.value || a.value == b.value))))

def insertPiece (p : Piece) : List Piece → List Piece
  | [] => [p]
  | q :: rest => if p.before q then p :: q :: rest else q :: insertPiece p rest

def sortPieces (l : List Piece) : List Piece :=
  l.foldl (fun acc p => insertPiece p acc) []

def joinPiece (attributes : List (List Char × List Char)) (p : Piece) :
    List (List Char × List Char) :=
  match attributes with
  | [] => [(p.name, p.value)]
  | a :: rest => if a.1 == p.name then (a.1, a.2 ++ p.value) :: rest else a :: joinPiece rest p

def read (s : Bytes) (ended : Bool) : Option ContentType :=
  let st := run (s.length + 1) {} s
  let st := if ended then st.endLine false else st
  let attributes := (sortPieces st.pieces).foldl joinPiece st.attributes
  st.kind.map fun k => { kind := k, subkind := st.subkind, attributes := attributes }

end ContentType

end Letterbox.Mime
