import Letterbox.Envelope.Digest
import Letterbox.Mailbox.Removal

namespace Letterbox

namespace Tables

def previewOf (t : Tables) (id : String) : String :=
  match t.envelope? id with
  | .ok e => e.snippet
  | .error _ => ""

def fillPreviews (t : Tables) : Tables :=
  { t with messages := t.messages.map fun r =>
      if r.snippet.isNone then { r with snippet := some (t.previewOf r.id) } else r }

end Tables

namespace Mailbox

def migrate (m : Mailbox) : Outcome Unit :=
  (if m.closed then .error .closedToMigration else .ok (), m)

def vacuum (m : Mailbox) : Outcome Unit :=
  (m.ask fun _ => .ok (), m)

def settle (m : Mailbox) (now : Instant) : Mailbox :=
  if m.activity.idleFor (clock now) < m.config.retention.idleAfterSeconds.toNat * 1000 then m
  else
    let m := { m with activity := m.activity.enterIdle.2 }
    if m.activity.deletedBytes == 0 || m.closed then m
    else { m with activity := m.activity.takeDeleted.2 }

def maintain (m : Mailbox) (now : Instant) : Mailbox :=
  match m.prune now with
  | (.error .ageOutOfRange, m) => m
  | (_, m) => m.settle now

def backfill (m : Mailbox) : Outcome UInt64 :=
  match m.ask fun t => .ok (t.messages.filter fun r => r.snippet.isNone) with
  | .error why => (.error why, m)
  | .ok rows => (.ok rows.length.toUInt64, { m with tables := m.tables.fillPreviews })

def startBackground (m : Mailbox) (now : Instant) : Bool × Mailbox :=
  if m.started then (false, m)
  else
    let m := { m with started := true }
    (true, if m.closed then m else (m.maintain now).backfill.2)

def shutdown (m : Mailbox) : Mailbox :=
  { m with closed := true }

def reopen? (m : Mailbox) (now : Instant) (config : Config) : Except MailError Mailbox :=
  let storage := { config.storage with dataFile := m.config.storage.dataFile }
  open? { config with storage } (if m.config.keepsTables then m.tables else {}) m.webhook now

end Mailbox

end Letterbox
