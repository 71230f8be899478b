import Letterbox.Config.Format
import Letterbox.Toml.Reader

namespace Letterbox

def tomlFormat : Format Toml where
  record names
    | .table fields => Fields.ofNamed? names fields
    | .array items => some (Fields.ofItems names items)
    | .moment _ => some { entries := [], named := true }
    | _ => none
  items
    | .array l => some l
    | _ => none
  isNull _ := false
  string
    | .string s => some s
    | _ => none
  bool
    | .bool b => some b
    | _ => none
  unsigned
    | .integer i => if 0 ≤ i then some i.toNat.toUInt64 else none
    | _ => none
  signed
    | .integer i => if -2147483648 ≤ i && i ≤ 2147483647 then some i else none
    | _ => none

def Config.ofToml? (s : String) : Option Config :=
  (Toml.parse? s).bind (Config.read? tomlFormat)

end Letterbox
