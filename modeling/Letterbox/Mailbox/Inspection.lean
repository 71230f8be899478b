import Letterbox.Mailbox.Basic
import Letterbox.Mailbox.Search
import Letterbox.Zstd.Frame

namespace Letterbox

namespace Tables

def raw? (t : Tables) (id : String) : Except MailError Bytes :=
  match t.payload? id with
  | none => .error (.noMessage id)
  | some frame =>
    match Zstd.decompress? frame with
    | none => .error .unreadablePayload
    | some raw => .ok raw

def envelope? (t : Tables) (id : String) : Except MailError Envelope :=
  (t.raw? id).bind fun raw =>
    match Envelope.parse raw with
    | .error why => .error (.payloadMalformed id why)
    | .ok e => .ok e

def part? (t : Tables) (id partId : String) : Except MailError Part :=
  (t.envelope? id).bind fun e =>
    match e.findPart partId with
    | none => .error (.noPart partId id)
    | some p => .ok p

def existing? (t : Tables) (id : String) : Except MailError Row :=
  match t.row? id with
  | none => .error (.noMessage id)
  | some r => .ok r

def isRead? (t : Tables) (id : String) : Except MailError Bool :=
  (t.existing? id).map Row.read

def signedBound : Nat := 9223372036854775808

/-- A page of a list. A limit from 2 ^ 63 on is none, and so is such an offset. -/
def page {α : Type} (offset limit : UInt64) (l : List α) : List α :=
  let rest := if offset.toNat < signedBound then l.drop offset.toNat else l
  if limit.toNat < signedBound then rest.take limit.toNat else rest

def summaries (t : Tables) (rows : List Row) : List Summary :=
  rows.filterMap t.summary?

def list (t : Tables) (offset limit : UInt64) : List Summary :=
  t.summaries (page offset limit t.newestFirst)

def matching? (t : Tables) (query : String) : Except MailError (List Row) :=
  (Search.rows? t false none (Query.parse query)).mapError .unsearchable

def pageEnd (offset limit : UInt64) : Option Nat :=
  if limit.toNat < signedBound then
    some ((if offset.toNat < signedBound then offset.toNat else 0) + limit.toNat)
  else none

def listed? (t : Tables) (query : String) (offset limit : UInt64) : Except MailError (List Row) :=
  if limit == 0 then .ok []
  else (Search.rows? t true (pageEnd offset limit) (Query.parse query)).mapError .unsearchable

def search? (t : Tables) (query : String) (offset limit : UInt64) :
    Except MailError SearchResults := do
  let counted ← t.matching? query
  let rows ← t.listed? query offset limit
  return {
    messages := t.summaries (page offset limit rows)
    total := counted.length.toUInt64 }

def latest? (t : Tables) (query : Option String) : Except MailError String :=
  let q := Text.trim (query.getD "").toList
  let found := if q.isEmpty then .ok (t.list 0 1)
    else (t.search? (String.ofList q) 0 1).map SearchResults.messages
  found.bind fun l =>
    match l with
    | s :: _ => .ok s.id
    | [] => .error .noMatch

def hasMessageId (t : Tables) (messageId : String) : Bool :=
  t.messages.any fun r => r.messageId == trimBrackets messageId

end Tables

namespace Mailbox

def look {α : Type} (m : Mailbox) (now : Instant) (f : Tables → Except MailError α) : Outcome α :=
  let m := m.touch now
  (m.ask f, m)

def raw (m : Mailbox) (now : Instant) (id : String) : Outcome Bytes :=
  m.look now fun t => t.raw? id

def part (m : Mailbox) (now : Instant) (id partId : String) : Outcome Part :=
  m.look now fun t => t.part? id partId

def list (m : Mailbox) (now : Instant) (offset limit : UInt64) : Outcome (List Summary) :=
  m.look now fun t => .ok (t.list offset limit)

def search (m : Mailbox) (now : Instant) (query : String) (offset limit : UInt64) :
    Outcome SearchResults :=
  m.look now fun t => t.search? query offset limit

def latest (m : Mailbox) (now : Instant) (query : Option String) : Outcome String :=
  m.look now fun t => t.latest? query

def tags (m : Mailbox) (now : Instant) (id : String) : Outcome (List String) :=
  m.look now fun t => .ok (t.tagsOf id)

def isUnread (m : Mailbox) (now : Instant) (id : String) : Outcome Bool :=
  m.look now fun t => (t.isRead? id).map not

def hasMessageId (m : Mailbox) (now : Instant) (messageId : String) : Outcome Bool :=
  m.look now fun t => .ok (t.hasMessageId messageId)

def countAll (m : Mailbox) (now : Instant) : Outcome UInt64 :=
  m.look now fun t => .ok t.stats.total

def countUnread (m : Mailbox) (now : Instant) : Outcome UInt64 :=
  m.look now fun t => .ok t.stats.unread

def countRead (m : Mailbox) (now : Instant) : Outcome UInt64 :=
  m.look now fun t => .ok (t.messages.filter Row.read).length.toUInt64

def stats (m : Mailbox) (now : Instant) : Outcome Stats :=
  m.look now fun t => .ok t.stats

def allTags (m : Mailbox) : Outcome (List String) :=
  (m.ask fun t => .ok t.vocabulary, m)

end Mailbox

end Letterbox
