namespace Letterbox

/-- `sent` counts the values sent so far, the newest of which stand at the front of `held`.
`subscribers` has for each subscriber the count at which the next value stands, and nothing for one
who has left. -/
structure Channel (α : Type) where
  capacity : Nat
  sent : Nat := 0
  held : List α := []
  subscribers : List (Option Nat) := []
  deriving Repr

inductive Receipt (α : Type) where
  | empty
  | lagged (lost : Nat)
  | value (a : α)
  | closed
  deriving DecidableEq, Repr

namespace Channel

variable {α : Type}

def powerFrom (n : Nat) : Nat → Nat → Nat
  | 0, p => p
  | fuel + 1, p => if n ≤ p then p else powerFrom n fuel (2 * p)

def withCapacity (capacity : Nat) : Channel α :=
  { capacity := powerFrom capacity capacity 1 }

def defaultCapacity : Nat := 256

def isHeard (c : Channel α) : Bool :=
  c.subscribers.any Option.isSome

def subscribe (c : Channel α) : Nat × Channel α :=
  (c.subscribers.length, { c with subscribers := c.subscribers ++ [some c.sent] })

def unsubscribe (n : Nat) (c : Channel α) : Channel α :=
  { c with subscribers := c.subscribers.set n none }

def send (a : α) (c : Channel α) : Channel α :=
  if c.isHeard then { c with sent := c.sent + 1, held := (a :: c.held).take c.capacity } else c

def moveTo (n next : Nat) (c : Channel α) : Channel α :=
  { c with subscribers := c.subscribers.set n (some next) }

def receive (n : Nat) (c : Channel α) : Receipt α × Channel α :=
  match (c.subscribers[n]?).join with
  | none => (.closed, c)
  | some next =>
    if c.sent ≤ next then (.empty, c)
    else if c.capacity < c.sent - next then
      let oldest := c.sent - c.capacity
      (.lagged (oldest - next), c.moveTo n oldest)
    else match c.held[c.sent - next - 1]? with
      | some a => (.value a, c.moveTo n (next + 1))
      | none => (.empty, c)

end Channel

end Letterbox
