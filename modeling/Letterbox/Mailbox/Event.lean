import Letterbox.Mailbox.Encoding

namespace Letterbox

inductive Event where
  | new (summary : Summary)
  | prune (count : UInt64)
  | stats (stats : Stats)
  deriving DecidableEq, Repr, Inhabited

namespace Event

def kind : Event → String
  | .new _ => "new"
  | .prune _ => "prune"
  | .stats _ => "stats-update"

def payload : Event → Json
  | .new s => s.toJson
  | .prune n => .object [("deleted", Json.ofUInt64 n)]
  | .stats s => s.toJson

def data : Event → Json
  | .new s => s.toJson
  | .prune n => Json.ofUInt64 n
  | .stats s => s.toJson

def toJson (e : Event) : Json :=
  .object [("type", .string e.kind), ("data", e.data)]

end Event

end Letterbox
