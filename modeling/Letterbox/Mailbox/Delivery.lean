import Letterbox.Envelope.Digest
import Letterbox.Json.Printer
import Letterbox.Mailbox.Basic
import Letterbox.Zstd.Frame

namespace Letterbox.Mailbox

def createdAt (config : StorageConfig) (now : Instant) (e : Envelope) : Instant :=
  if config.useMessageDates then e.date.getD now else now

def arrivalTags (m : Mailbox) (raw : Bytes) (e : Envelope) : List String :=
  m.rules.matching raw ++ Tag.ofField (e.header "X-Tags")

def rowOf (id : String) (created : Instant) (raw : Bytes) (e : Envelope) : Row :=
  { id
    messageId := e.messageId
    created := created.millis
    subject := e.subject
    metadata := .ofText (Parties.ofEnvelope e).toJson.render
    size := raw.length.toUInt64
    inlineCount := e.inlines.length.toUInt32
    attachmentCount := e.attachments.length.toUInt32
    searchText := e.searchText
    snippet := some e.snippet
    read := false }

def arrivalSummary (id : String) (created : Instant) (raw : Bytes) (e : Envelope)
    (tags : List String) : Summary :=
  { id
    messageId := e.messageId
    parties := Parties.ofEnvelope e
    subject := e.subject
    created
    size := raw.length.toUInt64
    inlineCount := e.inlines.length.toUInt32
    attachmentCount := e.attachments.length.toUInt32
    snippet := e.snippet
    read := false
    tags }

def insertMessage (m : Mailbox) (id : String) (created : Instant) (raw : Bytes) (e : Envelope) :
    Except MailError (List String × Tables) :=
  if m.tables.isTaken id then .error (.idTaken id)
  else
    (m.tables.insert (rowOf id created raw e) (Zstd.compress raw)).replaceTags id
      (m.arrivalTags raw e)

def receive (m : Mailbox) (now : Instant) (summary : Summary) (tables : Tables) : Mailbox :=
  let m := { m with tables, metrics := m.metrics.countStored }
  let m := if m.webhook then m.notify (.delivery summary) else m
  (m.notify (.event (.new summary))).announceStats now

def store (m : Mailbox) (now : Instant) (id : String) (raw : Bytes) : Outcome String :=
  let m := m.touch now
  match Envelope.parse raw with
  | .error why => (.error (.malformed why), { m with metrics := m.metrics.countMalformed })
  | .ok e =>
    let created := createdAt m.config.storage now e
    match m.ask fun _ => m.insertMessage id created raw e with
    | .error why => (.error why, m)
    | .ok (tags, tables) => (.ok id, m.receive now (arrivalSummary id created raw e tags) tables)

end Letterbox.Mailbox
