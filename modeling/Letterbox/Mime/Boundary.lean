import Letterbox.Mime.Token

namespace Letterbox.Mime.Boundary

def seek (boundary : Bytes) (afterDash : Bool) : Bytes → Option Bytes
  | [] => none
  | b :: rest =>
    if b == 45 && afterDash && !boundary.isEmpty then
      match dropLeading? boundary rest with
      | some rest => some rest
      | none => seek boundary true rest
    else seek boundary (b == 45) rest

structure Segment where
  text : Bytes
  lineEnd : Bytes
  rest : Bytes

def cutLineEnd : Bytes → Bytes × Bytes
  | 10 :: 13 :: more => (more.reverse, [13, 10])
  | 10 :: more => (more.reverse, [10])
  | s => (s.reverse, [])

def segment (boundary passed : Bytes) : Bytes → Option Segment
  | [] => none
  | b :: rest =>
    if b == 45 then
      match passed with
      | 45 :: before =>
        match dropLeading? boundary rest with
        | some after => let c := cutLineEnd before; some ⟨c.1, c.2, after⟩
        | none => segment boundary (b :: passed) rest
      | _ => segment boundary (b :: passed) rest
    else segment boundary (b :: passed) rest

def skipLineEnd : Bytes → Bytes
  | [] => []
  | b :: rest =>
    if b == 10 then rest
    else if b == 13 || isFold b then skipLineEnd rest
    else b :: rest

def isLast (s : Bytes) : Bool × Bytes :=
  match s with
  | 13 :: 10 :: rest => (false, rest)
  | 45 :: 45 :: rest => (true, rest)
  | 10 :: rest => (false, rest)
  | b :: rest => if isSpaceByte b then (false, skipLineEnd rest) else (false, b :: rest)
  | [] => (false, [])

end Letterbox.Mime.Boundary
