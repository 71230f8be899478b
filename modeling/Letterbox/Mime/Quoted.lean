import Letterbox.Mime.Token

namespace Letterbox.Mime.Quoted

inductive Escape where
  | none
  | opened
  | half (digit : UInt8)
  deriving DecidableEq, Repr

def decode (escape : Escape) (out : Bytes) : Bytes → Option (Bytes × Escape)
  | [] => some (out.reverse, escape)
  | b :: rest =>
    if b == 61 then
      match escape with
      | .none => decode .opened out rest
      | _ => none
    else if b == 10 then
      match escape with
      | .opened => decode .none out rest
      | _ => decode escape (b :: out) rest
    else match escape with
      | .none => decode .none (b :: out) rest
      | .opened => match hexByte? b with
        | some d => decode (.half d) out rest
        | none => if isSpaceByte b then decode .opened out rest else none
      | .half d => match hexByte? b with
        | some e => decode .none ((d * 16 + e) :: out) rest
        | none => none

def readWord (fold : Bool) (escape : Escape) (out : Bytes) : Bytes → Option (Bytes × Bytes)
  | [] => none
  | b :: rest =>
    if fold && isFold b then readWord true escape out rest
    else if b == 61 then
      match escape with
      | .none => readWord false .opened out rest
      | _ => none
    else if b == 63 then
      match rest with
      | 61 :: rest => some (out.reverse, rest)
      | _ => readWord false escape (63 :: out) rest
    else if b == 10 then readWord true escape out rest
    else if b == 95 then readWord false escape (32 :: out) rest
    else if b == 13 then readWord fold escape out rest
    else match escape with
      | .none => readWord false .none (b :: out) rest
      | .opened => match hexByte? b with
        | some d => readWord false (.half d) out rest
        | none => none
      | .half d => match hexByte? b with
        | some e => readWord false .none ((d * 16 + e) :: out) rest
        | none => none

end Letterbox.Mime.Quoted
