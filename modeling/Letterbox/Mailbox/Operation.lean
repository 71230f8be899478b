import Letterbox.Mailbox.Delivery
import Letterbox.Mailbox.Marking
import Letterbox.Mailbox.Upkeep

namespace Letterbox

inductive Look : Type → Type where
  | raw (id : String) : Look Bytes
  | part (id partId : String) : Look Part
  | list (offset limit : UInt64) : Look (List Summary)
  | search (query : String) (offset limit : UInt64) : Look SearchResults
  | latest (query : Option String) : Look String
  | tags (id : String) : Look (List String)
  | allTags : Look (List String)
  | isUnread (id : String) : Look Bool
  | hasMessageId (messageId : String) : Look Bool
  | countAll : Look UInt64
  | countRead : Look UInt64
  | countUnread : Look UInt64
  | stats : Look Stats

inductive Operation : Type → Type 1 where
  | look {α : Type} (look : Look α) : Operation α
  | store (id : String) (raw : Bytes) : Operation String
  | message (id : String) : Operation Message
  | mark (id : String) (read : Bool) : Operation Bool
  | markAll (read : Bool) : Operation UInt64
  | setTags (id : String) (names : List String) : Operation (List String)
  | clearTags (id : String) : Operation Unit
  | pruneTags : Operation UInt64
  | deleteOne (id : String) : Operation Unit
  | deleteMany (ids : List String) : Operation UInt64
  | deleteMatching (query : String) : Operation UInt64
  | deleteAll : Operation UInt64
  | prune : Operation UInt64
  | backfill : Operation UInt64
  | migrate : Operation Unit
  | vacuum : Operation Unit
  | maintain : Operation Unit
  | startBackground : Operation Bool

def Look.perform {α : Type} (m : Mailbox) (now : Instant) : Look α → Outcome α
  | .raw id => m.raw now id
  | .part id partId => m.part now id partId
  | .list offset limit => m.list now offset limit
  | .search query offset limit => m.search now query offset limit
  | .latest query => m.latest now query
  | .tags id => m.tags now id
  | .allTags => m.allTags
  | .isUnread id => m.isUnread now id
  | .hasMessageId messageId => m.hasMessageId now messageId
  | .countAll => m.countAll now
  | .countRead => m.countRead now
  | .countUnread => m.countUnread now
  | .stats => m.stats now

def Operation.perform {α : Type} (m : Mailbox) (now : Instant) : Operation α → Outcome α
  | .look l => l.perform m now
  | .store id raw => m.store now id raw
  | .message id => m.message now id
  | .mark id read => m.mark now id read
  | .markAll read => m.markAll now read
  | .setTags id names => m.setTags now id names
  | .clearTags id => m.clearTags now id
  | .pruneTags => m.pruneTags now
  | .deleteOne id => m.deleteOne now id
  | .deleteMany ids => m.deleteMany now ids
  | .deleteMatching query => m.deleteMatching now query
  | .deleteAll => m.deleteAll now
  | .prune => m.prune now
  | .backfill => m.backfill
  | .migrate => m.migrate
  | .vacuum => m.vacuum
  | .maintain => (.ok (), m.maintain now)
  | .startBackground => let (isFirst, m) := m.startBackground now; (.ok isFirst, m)

structure Request where
  {Reply : Type}
  now : Instant
  operation : Operation Reply
  isDated : now.isDated = true

namespace Mailbox

def after (m : Mailbox) (r : Request) : Mailbox :=
  (r.operation.perform m r.now).2

def run (m : Mailbox) (requests : List Request) : Mailbox :=
  requests.foldl after m

end Mailbox

end Letterbox
