import Letterbox.Mime.Part

namespace Letterbox.Mime

inductive Tree where
  | leaf (place : Nat)
  | branch (children : List Tree)
  deriving Repr, Inhabited

namespace Tree

mutual

def leavesAt (path : List Nat) : Tree → List (List Nat × Nat)
  | .leaf place => [(path, place)]
  | .branch children => leavesFrom path 1 children

def leavesFrom (path : List Nat) (n : Nat) : List Tree → List (List Nat × Nat)
  | [] => []
  | c :: rest => leavesAt (path ++ [n]) c ++ leavesFrom path (n + 1) rest

end

def leaves (t : Tree) : List (List Nat × Nat) :=
  leavesAt [] t

def identifier (path : List Nat) : String :=
  if path.isEmpty then "0" else String.intercalate "." (path.map toString)

end Tree

namespace Message

def treeAt (parts : List Part) : Nat → Nat → Tree
  | 0, _ => .branch []
  | fuel + 1, place =>
    match parts[place]? with
    | none => .branch []
    | some p =>
      match p.body with
      | .multipart children => .branch (children.map (treeAt parts fuel))
      | _ => .leaf place

def tree (m : Message) : Tree :=
  treeAt m.parts (m.parts.length + 1) 0

end Message

end Letterbox.Mime
