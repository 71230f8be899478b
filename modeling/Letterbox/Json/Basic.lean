namespace Letterbox

inductive Json where
  | null
  | bool (b : Bool)
  | int (i : Int)
  | raw (spelling : String)
  | string (s : String)
  | array (items : List Json)
  | object (fields : List (String × Json))
  deriving Repr, BEq, Inhabited

namespace Json

def nat (n : Nat) : Json :=
  .int n

def strings (l : List String) : Json :=
  .array (l.map .string)

def optional {α : Type} (f : α → Json) : Option α → Json
  | none => .null
  | some a => f a

mutual

def depth : Json → Nat
  | .array items => depthOfItems items + 1
  | .object fields => depthOfFields fields + 1
  | _ => 0

def depthOfItems : List Json → Nat
  | [] => 0
  | v :: rest => max (depth v) (depthOfItems rest)

def depthOfFields : List (String × Json) → Nat
  | [] => 0
  | (_, v) :: rest => max (depth v) (depthOfFields rest)

end

end Json

end Letterbox
