namespace Letterbox

structure Activity where
  lastAction : Nat := 0
  idle : Bool := false
  deletedBytes : UInt64 := 0
  deriving DecidableEq, Repr, Inhabited

namespace Activity

def touch (now : Nat) (a : Activity) : Activity :=
  { a with lastAction := now, idle := false }

def idleFor (now : Nat) (a : Activity) : Nat :=
  now - a.lastAction

def enterIdle (a : Activity) : Bool × Activity :=
  (!a.idle, { a with idle := true })

def addDeleted (bytes : UInt64) (a : Activity) : Activity :=
  { a with deletedBytes := a.deletedBytes + bytes }

def takeDeleted (a : Activity) : UInt64 × Activity :=
  (a.deletedBytes, { a with deletedBytes := 0 })

end Activity

end Letterbox
