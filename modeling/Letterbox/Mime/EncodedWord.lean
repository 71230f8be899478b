import Letterbox.Mime.Base64
import Letterbox.Mime.Charset
import Letterbox.Mime.Quoted

namespace Letterbox.Mime.EncodedWord

def readCharset : Bytes → Option (Bytes × Bytes)
  | [] => none
  | b :: rest =>
    if b == 63 then some ([], rest)
    else if b == 10 then none
    else match readCharset rest with
      | some (name, rest) => some (if b == 42 then [] else b :: name, rest)
      | none => none

def read (s : Bytes) : Option (List Char × Bytes) :=
  match s with
  | 63 :: rest => do
    let (name, rest) ← readCharset rest
    if name.isEmpty then none
    else match rest with
      | e :: 63 :: rest =>
        let coded ←
          if e == 113 || e == 81 then Quoted.readWord false .none [] rest
          else if e == 98 || e == 66 then Base64.readWord {} [] rest
          else none
        let charset := (Charset.ofName? name).getD Charset.utf8
        return (charset coded.1, coded.2)
      | _ => none
  | _ => none

end Letterbox.Mime.EncodedWord
