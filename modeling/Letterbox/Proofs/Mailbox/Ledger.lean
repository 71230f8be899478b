import Letterbox.Proofs.Mailbox.Change
import Letterbox.Proofs.Mailbox.Outcome
import Mathlib.Data.List.Basic
import Mathlib.Data.UInt

namespace Letterbox

namespace Notice

def arrival? : Notice → Option Summary
  | .event (.new s) => some s
  | _ => none

def delivery? : Notice → Option Summary
  | .delivery s => some s
  | _ => none

def pruned? : Notice → Option UInt64
  | .event (.prune count) => some count
  | _ => none

end Notice

structure Ledger where
  stored : UInt64
  deleted : UInt64
  malformed : UInt64
  deletedBytes : UInt64
  arrivals : List Summary
  deliveries : List Summary
  pruned : UInt64

namespace Ledger

def receive (webhook : Bool) (s : Summary) (l : Ledger) : Ledger :=
  { l with
    stored := l.stored + 1
    arrivals := l.arrivals ++ [s]
    deliveries := l.deliveries ++ if webhook then [s] else [] }

def removeOne (r : Row) (l : Ledger) : Ledger :=
  { l with deleted := l.deleted + 1, deletedBytes := l.deletedBytes + r.size }

def shed (rows : List Row) (l : Ledger) : Ledger :=
  { l with
    deleted := l.deleted + rows.length.toUInt64
    deletedBytes := l.deletedBytes + Tables.bytesOf rows
    pruned := l.pruned + rows.length.toUInt64 }

def reclaim (l : Ledger) : Ledger :=
  { l with deletedBytes := 0 }

theorem shed_nil (l : Ledger) : l.shed [] = l := by
  simp [shed, Tables.bytesOf]

end Ledger

namespace Tables

def lost (t t' : Tables) : List Row :=
  t.messages.filter fun r => !(t'.messages.map Row.id).contains r.id

theorem lost_remove (t : Tables) (ids : List String) : t.lost (t.remove ids) = t.rowsOf ids := by
  refine List.filter_congr ?_
  intro r hr
  have hkept : r.id ∈ (t.remove ids).messages.map Row.id ↔ r.id ∉ ids := by
    simp only [remove, List.mem_map, List.mem_filter, Bool.not_eq_true', List.contains_eq_mem,
      decide_eq_false_iff_not]
    constructor
    · rintro ⟨s, ⟨-, hs⟩, hid⟩
      exact hid ▸ hs
    · intro hnot
      exact ⟨r, ⟨hr, hnot⟩, rfl⟩
  simp only [List.contains_eq_mem, hkept, decide_not, Bool.not_not]

theorem lost_self (t : Tables) : t.lost t = [] := by
  have hnone := t.lost_remove []
  rwa [remove_nil, rowsOf_nil] at hnone

theorem length_rowsOf_add (t : Tables) (ids : List String) :
    (t.rowsOf ids).length + (t.remove ids).messages.length = t.messages.length :=
  (List.length_eq_length_filter_add fun r : Row => ids.contains r.id).symm

theorem rowsOf_ids (t : Tables) : t.rowsOf (t.messages.map Row.id) = t.messages := by
  refine List.filter_eq_self.mpr ?_
  intro r hr
  simpa using ⟨r, hr, rfl⟩

theorem rowsOf_singleton {t : Tables} (hids : (t.messages.map Row.id).Nodup) {id : String} {r : Row}
    (hrow : t.row? id = some r) : t.rowsOf [id] = [r] := by
  obtain ⟨hr, rfl⟩ := mem_of_row? hrow
  rw [← Text.filter_eq_singleton hids hr, rowsOf]
  simp only [List.contains_cons, List.contains_nil, Bool.or_false]

theorem bytesOf_eq_sum (rows : List Row) : bytesOf rows = (rows.map Row.size).sum := by
  induction rows with
  | nil => rfl
  | cons r rows ih =>
    rw [List.map_cons, List.sum_cons, ← ih, bytesOf, List.foldl_cons, Removal.foldl_size,
      UInt64.zero_add]

end Tables

namespace Mailbox

def ledger (m : Mailbox) : Ledger :=
  { stored := m.metrics.stored
    deleted := m.metrics.deleted
    malformed := m.metrics.malformed
    deletedBytes := m.activity.deletedBytes
    arrivals := m.notices.filterMap Notice.arrival?
    deliveries := m.notices.filterMap Notice.delivery?
    pruned := (m.notices.filterMap Notice.pruned?).sum }

@[simp] theorem ledger_touch (m : Mailbox) (now : Instant) : (m.touch now).ledger = m.ledger :=
  rfl

@[simp] theorem ledger_tables (m : Mailbox) (t : Tables) :
    { m with tables := t }.ledger = m.ledger :=
  rfl

@[simp] theorem ledger_recordRemoval (m : Mailbox) (removed : Removal) :
    (m.recordRemoval removed).ledger = { m.ledger with
      deleted := m.ledger.deleted + removed.count.toUInt64
      deletedBytes := m.ledger.deletedBytes + removed.bytes } :=
  rfl

theorem ledger_notify (m : Mailbox) (n : Notice) : (m.notify n).ledger = { m.ledger with
    arrivals := m.ledger.arrivals ++ n.arrival?.toList
    deliveries := m.ledger.deliveries ++ n.delivery?.toList
    pruned := m.ledger.pruned + n.pruned?.toList.sum } := by
  have htold {α : Type} (f : Notice → Option α) :
      (m.notify n).notices.filterMap f = m.notices.filterMap f ++ (f n).toList := by
    rw [notify_notices, List.filterMap_append]
    cases hf : f n <;> simp [hf]
  simp only [ledger, htold, List.sum_append]
  rfl

@[simp] theorem ledger_announceStats (m : Mailbox) (now : Instant) :
    (m.announceStats now).ledger = m.ledger := by
  simp only [announceStats]
  split
  · rfl
  · simp [ledger_notify, Notice.arrival?, Notice.delivery?, Notice.pruned?]

@[simp] theorem ledger_announcePrune (m : Mailbox) (now : Instant) (count : UInt64) :
    (m.announcePrune now count).ledger = { m.ledger with pruned := m.ledger.pruned + count } := by
  rw [announcePrune, ledger_announceStats, ledger_notify]
  simp [Notice.arrival?, Notice.delivery?, Notice.pruned?]

theorem ledger_receive (m : Mailbox) (now : Instant) (s : Summary) (t : Tables) :
    (m.receive now s t).ledger = m.ledger.receive m.webhook s := by
  let counted : Mailbox := { m with tables := t, metrics := m.metrics.countStored }
  have hcounted : counted.ledger = { m.ledger with stored := m.ledger.stored + 1 } := rfl
  cases hwebhook : m.webhook with
  | false =>
    have heq : m.receive now s t = (counted.notify (.event (.new s))).announceStats now := by
      simp [receive, hwebhook, counted]
    rw [heq, ledger_announceStats, ledger_notify, hcounted]
    simp [Ledger.receive, Notice.arrival?, Notice.delivery?, Notice.pruned?]
  | true =>
    have heq : m.receive now s t =
        ((counted.notify (.delivery s)).notify (.event (.new s))).announceStats now := by
      simp [receive, hwebhook, counted]
    rw [heq, ledger_announceStats, ledger_notify, ledger_notify, hcounted]
    simp [Ledger.receive, Notice.arrival?, Notice.delivery?, Notice.pruned?]

structure Steady (m m' : Mailbox) : Prop where
  ids : m'.tables.messages.map Row.id = m.tables.messages.map Row.id
  ledger : m'.ledger = m.ledger

namespace Steady

variable {m m' : Mailbox}

theorem refl (m : Mailbox) : m.Steady m :=
  ⟨rfl, rfl⟩

theorem touched (m : Mailbox) (now : Instant) : m.Steady (m.touch now) :=
  ⟨rfl, rfl⟩

theorem announced {t : Tables} (hids : t.messages.map Row.id = m.tables.messages.map Row.id)
    (now : Instant) : m.Steady ({ m.touch now with tables := t }.announceStats now) where
  ids := by rw [announceStats_tables, hids]
  ledger := by rw [ledger_announceStats, ledger_tables, ledger_touch]

end Steady

theorem steady_look {α : Type} (m : Mailbox) (now : Instant) (l : Look α) :
    m.Steady (l.perform m now).2 := by
  rcases look_snd m now l with heq | heq <;> rw [heq]
  · exact .refl m
  · exact .touched m now

section Open

variable {m : Mailbox} (hopen : m.closed = false)

include hopen

theorem tables_deleteMany (now : Instant) (ids : List String) :
    (m.deleteMany now ids).2.tables = m.tables.remove ids := by
  rw [deleteMany_of_open hopen]
  split
  · rfl
  · rw [announcePrune_tables, recordRemoval_tables]

theorem ledger_deleteMany (now : Instant) (ids : List String) :
    (m.deleteMany now ids).2.ledger = m.ledger.shed (m.tables.rowsOf ids) := by
  rw [deleteMany_of_open hopen]
  split
  · rename_i hnone
    rw [hnone, Ledger.shed_nil, ledger_tables]
  · rw [ledger_announcePrune, ledger_recordRemoval, ledger_tables]
    rfl

theorem steady_message (now : Instant) (id : String) : m.Steady (m.message now id).2 := by
  rcases message_cases hopen now id with ⟨why, -, heq⟩ | ⟨msg, r, -, -, heq⟩ <;> rw [heq]
  · exact .touched m now
  · split
    · exact .touched m now
    · exact .announced (Tables.setRead_ids m.tables id true) now

theorem steady_mark (now : Instant) (id : String) (read : Bool) :
    m.Steady (m.mark now id read).2 := by
  rcases mark_cases hopen now id read with ⟨-, heq⟩ | ⟨r, -, heq⟩ <;> rw [heq]
  · exact .touched m now
  · split
    · exact .touched m now
    · exact .announced (Tables.setRead_ids m.tables id read) now

theorem steady_markAll (now : Instant) (read : Bool) : m.Steady (m.markAll now read).2 := by
  rw [markAll_of_open hopen]
  split
  · exact .announced (Tables.setAllRead_ids m.tables read) now
  · exact .touched m now

theorem steady_setTags (now : Instant) (id : String) (names : List String) :
    m.Steady (m.setTags now id names).2 := by
  rcases setTags_cases hopen now id names with
    ⟨-, heq⟩ | ⟨r, why, -, -, heq⟩ | ⟨r, known, t, -, htags, heq⟩ <;> rw [heq]
  · exact .touched m now
  · exact .touched m now
  · exact .announced (congrArg (List.map Row.id) (Tables.replaceTags_messages htags).1) now

theorem steady_clearTags (now : Instant) (id : String) : m.Steady (m.clearTags now id).2 := by
  rw [clearTags_of_open hopen]
  exact ⟨rfl, rfl⟩

theorem steady_pruneTags (now : Instant) : m.Steady (m.pruneTags now).2 := by
  rw [pruneTags_of_open hopen]
  split
  · exact .announced (t := m.tables.pruneTags) rfl now
  · exact .touched m now

theorem steady_backfill : m.Steady m.backfill.2 := by
  rw [backfill_of_open hopen]
  exact ⟨m.tables.fillPreviews_ids, rfl⟩

theorem tables_deleteAll (now : Instant) : (m.deleteAll now).2.tables = m.tables.clear := by
  rw [deleteAll_of_open hopen, announcePrune_tables]

theorem ledger_deleteAll (now : Instant) :
    (m.deleteAll now).2.ledger = (m.ledger.shed m.tables.messages).reclaim := by
  rw [deleteAll_of_open hopen, ledger_announcePrune]
  rfl

end Open

end Mailbox

end Letterbox
