import Letterbox.Text.Utf8

namespace Letterbox.Mime.Units

def ofBytes (bigEndian : Bool) : Bytes → List Nat
  | a :: b :: rest =>
    (if bigEndian then a.toNat * 256 + b.toNat else b.toNat * 256 + a.toNat) ::
      ofBytes bigEndian rest
  | _ => []

def joined : List Nat → List Char
  | [] => []
  | [u] => [if 0xD800 ≤ u && u < 0xE000 then '\uFFFD' else Char.ofNat u]
  | u :: v :: rest =>
    if 0xD800 ≤ u && u < 0xDC00 then
      if 0xDC00 ≤ v && v < 0xE000 then
        Char.ofNat (0x10000 + (u - 0xD800) * 1024 + (v - 0xDC00)) :: joined rest
      else '\uFFFD' :: joined (v :: rest)
    else if 0xDC00 ≤ u && u < 0xE000 then '\uFFFD' :: joined (v :: rest)
    else Char.ofNat u :: joined (v :: rest)

end Letterbox.Mime.Units
