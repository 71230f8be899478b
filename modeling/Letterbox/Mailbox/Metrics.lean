namespace Letterbox

structure Metrics where
  stored : UInt64 := 0
  deleted : UInt64 := 0
  malformed : UInt64 := 0
  webhookFailures : UInt64 := 0
  deriving DecidableEq, Repr, Inhabited

namespace Metrics

def countStored (m : Metrics) : Metrics :=
  { m with stored := m.stored + 1 }

def countDeleted (n : UInt64) (m : Metrics) : Metrics :=
  { m with deleted := m.deleted + n }

def countMalformed (m : Metrics) : Metrics :=
  { m with malformed := m.malformed + 1 }

def countWebhookFailure (m : Metrics) : Metrics :=
  { m with webhookFailures := m.webhookFailures + 1 }

end Metrics

end Letterbox
