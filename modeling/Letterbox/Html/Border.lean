namespace Letterbox.Html

inductive Joint where
  | plain
  | above
  | below
  | cross
  | divider
  deriving DecidableEq, Repr

abbrev Border := List Joint

namespace Joint

def joinAbove : Joint → Joint
  | .plain => .above
  | .above => .above
  | .below => .cross
  | .cross => .cross
  | .divider => .divider

def joinBelow : Joint → Joint
  | .plain => .below
  | .below => .below
  | .above => .cross
  | .cross => .cross
  | .divider => .divider

def isJoined (j : Joint) : Bool :=
  j != .plain && j != .divider

def char : Joint → Char
  | .plain => '─'
  | .above => '┴'
  | .below => '┬'
  | .cross => '┼'
  | .divider => '/'

def charAbove : Joint → Char
  | .above => '│'
  | .cross => '│'
  | _ => ' '

end Joint

namespace Border

def ofWidth (n : Nat) : Border :=
  List.replicate n .plain

def stretch (b : Border) (n : Nat) : Border :=
  b ++ List.replicate (n - b.length) .plain

def joinAbove (b : Border) (x : Nat) : Border :=
  (b.stretch (x + 1)).modify x Joint.joinAbove

def joinBelow (b : Border) (x : Nat) : Border :=
  (b.stretch (x + 1)).modify x Joint.joinBelow

def mergeBelow (b other : Border) (x : Nat) : Border :=
  (other.zipIdx x).foldl (fun b j => if j.1.isJoined then b.joinBelow j.2 else b) b

def mergeAbove (b other : Border) (x : Nat) : Border :=
  (other.zipIdx x).foldl (fun b j => if j.1.isJoined then b.joinAbove j.2 else b) b

def chars (b : Border) : List Char :=
  b.map Joint.char

def charsAbove (b : Border) : List Char :=
  b.map Joint.charAbove

end Border

end Letterbox.Html
