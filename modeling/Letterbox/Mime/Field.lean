import Letterbox.Mime.Token

namespace Letterbox.Mime

structure Field where
  name : Bytes
  body : Bytes
  ended : Bool
  deriving DecidableEq, Repr

structure HeaderBlock where
  fields : List Field
  closed : Bool
  rest : Bytes

namespace Field

inductive Start where
  | named (name : Bytes) (rest : Bytes)
  | blank (rest : Bytes)
  | eof

def readName (token : Token) : Bytes → Start
  | [] => .eof
  | b :: rest =>
    if b == 58 then
      if token.isOpen then .named token.bytes rest else readName token rest
    else if b == 10 then
      if token.isOpen then readName {} rest else .blank rest
    else if isSpaceByte b then readName (token.skip b) rest
    else readName (token.push b) rest

def readBody (acc : Bytes) : Bytes → Bytes × Bool × Bytes
  | [] => (acc.reverse, false, [])
  | b :: rest =>
    if b == 10 then
      match rest with
      | c :: _ => if isFold c then readBody (b :: acc) rest else (acc.reverse, true, rest)
      | [] => (acc.reverse, true, [])
    else readBody (b :: acc) rest

def readAll : Nat → List Field → Bytes → HeaderBlock
  | 0, acc, s => ⟨acc.reverse, false, s⟩
  | fuel + 1, acc, s =>
    match readName {} s with
    | .eof => ⟨acc.reverse, false, []⟩
    | .blank rest => ⟨acc.reverse, true, rest⟩
    | .named name rest =>
      let (body, ended, rest) := readBody [] rest
      readAll fuel (⟨name, body, ended⟩ :: acc) rest

end Field

def HeaderBlock.read (s : Bytes) : HeaderBlock :=
  Field.readAll (s.length + 1) [] s

namespace HeaderBlock

def find? (fields : List Field) (name : String) : Option Field :=
  let name := (ascii name).map lowerByte
  fields.reverse.find? fun f => f.name.map lowerByte == name

end HeaderBlock

end Letterbox.Mime
