import Letterbox.Mailbox.Inspection

namespace Letterbox

namespace Message

def returnPathOf (e : Envelope) : String :=
  let named := Text.trim (e.header "Return-Path").toList
  if named.isEmpty then (e.canonicalSender.map Address.address).getD ""
  else String.ofList (Text.trimBoth (fun c => c == '<' || c == '>') named)

def partsOf (parts : List Part) : List PartSummary :=
  (parts.filter Part.isReferenceable).map PartSummary.ofPart

def ofEnvelope (t : Tables) (r : Row) (e : Envelope) : Message :=
  { id := r.id
    messageId := e.messageId
    parties := Parties.ofEnvelope e
    returnPath := returnPathOf e
    subject := e.subject
    unsubscribe :=
      Unsubscribe.parse (e.header "List-Unsubscribe") (e.header "List-Unsubscribe-Post")
    date := e.date.getD r.createdAt
    tags := t.tagsOf r.id
    text := e.text
    html := e.html
    size := r.size
    inlines := partsOf e.inlines
    attachments := partsOf e.attachments }

end Message

namespace Tables

def message? (t : Tables) (id : String) : Except MailError Message :=
  (t.existing? id).bind fun r => (t.envelope? id).map (Message.ofEnvelope t r)

end Tables

namespace Mailbox

def putRead (m : Mailbox) (now : Instant) (id : String) (read : Bool) : Mailbox :=
  { m with tables := m.tables.setRead id read }.announceStats now

def message (m : Mailbox) (now : Instant) (id : String) : Outcome Message :=
  let m := m.touch now
  match m.ask fun t => do return (← t.message? id, ← t.isRead? id) with
  | .error why => (.error why, m)
  | .ok (msg, wasRead) => (.ok msg, if wasRead then m else m.putRead now id true)

def mark (m : Mailbox) (now : Instant) (id : String) (read : Bool) : Outcome Bool :=
  let m := m.touch now
  match m.ask fun t => t.isRead? id with
  | .error why => (.error why, m)
  | .ok was => if was == read then (.ok false, m) else (.ok true, m.putRead now id read)

def markAll (m : Mailbox) (now : Instant) (read : Bool) : Outcome UInt64 :=
  let m := m.touch now
  match m.ask fun t => .ok (t.setAllRead read) with
  | .error why => (.error why, m)
  | .ok (changed, tables) =>
    (.ok changed.toUInt64, if 0 < changed then { m with tables }.announceStats now else m)

def setTags (m : Mailbox) (now : Instant) (id : String) (names : List String) :
    Outcome (List String) :=
  let m := m.touch now
  match m.ask fun t => do
    let _ ← t.existing? id
    t.replaceTags id names with
  | .error why => (.error why, m)
  | .ok (known, tables) => (.ok known, { m with tables }.announceStats now)

def clearTags (m : Mailbox) (now : Instant) (id : String) : Outcome Unit :=
  let m := m.touch now
  match m.ask fun t => .ok (t.untag id) with
  | .error why => (.error why, m)
  | .ok tables => (.ok (), { m with tables })

def pruneTags (m : Mailbox) (now : Instant) : Outcome UInt64 :=
  let m := m.touch now
  match m.ask fun t => .ok t.pruneTags with
  | .error why => (.error why, m)
  | .ok tables =>
    let removed := m.tables.tags.length - tables.tags.length
    (.ok removed.toUInt64, if 0 < removed then { m with tables }.announceStats now else m)

end Mailbox

end Letterbox
