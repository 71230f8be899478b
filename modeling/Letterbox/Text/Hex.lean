import Letterbox.Text.Decimal
import Letterbox.Text.Utf8

namespace Letterbox.Text

def hexText (b : Bytes) : List Char :=
  b.flatMap fun x => [hexDigit (x.toNat / 16), hexDigit (x.toNat % 16)]

def hexBytes? : List Char → Option Bytes
  | [] => some []
  | [_] => none
  | a :: b :: rest => do
    let high ← hexValue? a
    let low ← hexValue? b
    return UInt8.ofNat (high * 16 + low) :: (← hexBytes? rest)

end Letterbox.Text
