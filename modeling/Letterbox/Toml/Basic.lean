import Letterbox.Number.Binary64

namespace Letterbox

inductive Toml where
  | string (s : String)
  | integer (i : Int)
  | float (x : Binary64)
  | bool (b : Bool)
  | moment (text : String)
  | array (items : List Toml)
  | table (fields : List (String × Toml))
  | missing
  deriving Repr, Inhabited

end Letterbox
