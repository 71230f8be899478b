namespace Letterbox

structure Instant where
  seconds : Int
  nanos : Nat := 0
  deriving DecidableEq, Repr, Inhabited

namespace Instant

def millis (t : Instant) : Int :=
  t.seconds * 1000 + (t.nanos / 1000000 : Nat)

def ofMillis (ms : Int) : Instant :=
  { seconds := ms / 1000, nanos := (ms % 1000).toNat * 1000000 }

end Instant

end Letterbox
