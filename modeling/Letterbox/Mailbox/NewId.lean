import Letterbox.Text.Hex

namespace Letterbox

def markRandom (index : Nat) (b : UInt8) : UInt8 :=
  if index == 6 then b % 16 + 0x40
  else if index == 8 then b % 64 + 0x80
  else b

def newId (random : Bytes) : String :=
  let digits := Text.hexText (random.mapIdx markRandom)
  let group (start length : Nat) : List Char := (digits.drop start).take length
  String.ofList (group 0 8 ++ '-' :: group 8 4 ++ '-' :: group 12 4 ++ '-' :: group 16 4 ++
    '-' :: group 20 12)

end Letterbox
