import Letterbox.Mailbox.Inspection

namespace Letterbox

structure Removal where
  count : Nat := 0
  bytes : UInt64 := 0
  deriving DecidableEq, Repr, Inhabited

def Removal.add (a b : Removal) : Removal :=
  { count := a.count + b.count, bytes := a.bytes + b.bytes }

namespace Tables

def rowsOf (t : Tables) (ids : List String) : List Row :=
  t.messages.filter fun r => ids.contains r.id

def bytesOf (rows : List Row) : UInt64 :=
  rows.foldl (fun n r => n + r.size) 0

def removeChunk (t : Tables) (ids : List String) : Removal × Tables :=
  let rows := t.rowsOf ids
  ({ count := rows.length, bytes := bytesOf rows }, t.remove ids)

def removeChunks (t : Tables) : List (List String) → Removal × Tables
  | [] => ({}, t)
  | ids :: rest =>
    let (first, t) := t.removeChunk ids
    let (others, t) := t.removeChunks rest
    (first.add others, t)

end Tables

def chunkLength : Nat := 500

def chunks : List String → List (List String)
  | [] => []
  | id :: ids => (id :: ids).take chunkLength :: chunks ((id :: ids).drop chunkLength)
  termination_by ids => ids.length
  decreasing_by
    simp only [List.length_drop, List.length_cons, chunkLength]
    omega

namespace Mailbox

def recordRemoval (m : Mailbox) (removed : Removal) : Mailbox :=
  { m with
    metrics := m.metrics.countDeleted removed.count.toUInt64
    activity := m.activity.addDeleted removed.bytes }

def announcePrune (m : Mailbox) (now : Instant) (count : UInt64) : Mailbox :=
  (m.notify (.event (.prune count))).announceStats now

def deleteOne (m : Mailbox) (now : Instant) (id : String) : Outcome Unit :=
  let m := m.touch now
  match m.ask fun t => t.existing? id with
  | .error why => (.error why, m)
  | .ok r =>
    let m := { m with tables := m.tables.remove [id] }
    ((.ok ()), (m.recordRemoval { count := 1, bytes := r.size }).announceStats now)

def deleteMany (m : Mailbox) (now : Instant) (ids : List String) : Outcome UInt64 :=
  if ids.isEmpty then (.ok 0, m)
  else if m.closed then (.error .closed, m)
  else
    let (removed, tables) := m.tables.removeChunks (chunks ids)
    let m := { m with tables }
    let count := removed.count.toUInt64
    (.ok count,
      if 0 < removed.count then (m.recordRemoval removed).announcePrune now count else m)

def deleteMatching (m : Mailbox) (now : Instant) (query : String) : Outcome UInt64 :=
  let m := m.touch now
  match m.ask fun t => t.matching? query with
  | .error why => (.error why, m)
  | .ok rows => m.deleteMany now (rows.map Row.id)

def deleteAll (m : Mailbox) (now : Instant) : Outcome UInt64 :=
  let m := m.touch now
  if m.closed then (.error .closed, m)
  else
    let count := m.tables.messages.length.toUInt64
    let m := { m with
      tables := m.tables.clear
      metrics := m.metrics.countDeleted count
      activity := m.activity.takeDeleted.2 }
    (.ok count, m.announcePrune now count)

/-- The number of hours that a setting means: from 2 ^ 63 on it counts from the other end. -/
def signedHours (hours : UInt64) : Int :=
  hours.toInt64.toInt

def hoursLimit : Nat := 2562047788015

def cutoff? (now : Instant) (hours : Int) : Except MailError Instant :=
  let t : Instant := { now with seconds := now.seconds - hours * 3600 }
  if hoursLimit < hours.natAbs || t.seconds < Instant.firstSecond ||
      Instant.lastSecond < t.seconds then .error .ageOutOfRange
  else .ok t

def excess? (m : Mailbox) : Except MailError (List String) :=
  let most := m.config.retention.maxMessages
  if most == 0 then .ok []
  else m.ask fun t => .ok ((Tables.page most (0 - 1) t.newestFirst).map Row.id)

def expired? (m : Mailbox) (now : Instant) : Except MailError (List String) :=
  match m.config.retention.maxAgeHours with
  | none => .ok []
  | some hours => (cutoff? now (signedHours hours)).bind fun cutoff =>
    m.ask fun t => .ok ((t.messages.filter fun r => decide (r.created < cutoff.millis)).map Row.id)

def outdated? (m : Mailbox) (now : Instant) : Except MailError (List String) :=
  m.excess?.bind fun excess => (m.expired? now).map fun expired => excess ++ expired

def prune (m : Mailbox) (now : Instant) : Outcome UInt64 :=
  match m.outdated? now with
  | .error why => (.error why, m)
  | .ok ids => m.deleteMany now ids

end Mailbox

end Letterbox
