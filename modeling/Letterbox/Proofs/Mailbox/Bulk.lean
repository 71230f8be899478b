import Letterbox.Proofs.Mailbox.Remaining
import Letterbox.Proofs.Mailbox.Run
import Mathlib.Data.List.Dedup

namespace Letterbox

namespace Tables

def known (t : Tables) (ids : List String) : List String :=
  (ids.filter fun id => (t.row? id).isSome).dedup

variable {t : Tables} {ids others : List String}

theorem isSome_row? {id : String} : (t.row? id).isSome = true ↔ id ∈ t.messages.map Row.id := by
  rw [← not_iff_not, Bool.not_eq_true, Option.isSome_eq_false_iff, Option.isNone_iff_eq_none,
    row?_eq_none]

theorem mem_known {id : String} :
    id ∈ t.known ids ↔ id ∈ ids ∧ id ∈ t.messages.map Row.id := by
  rw [known, List.mem_dedup, List.mem_filter, isSome_row?]

theorem nodup_known (t : Tables) (ids : List String) : (t.known ids).Nodup :=
  List.nodup_dedup _

theorem rowsOf_congr (h : ∀ r ∈ t.messages, r.id ∈ ids ↔ r.id ∈ others) :
    t.rowsOf ids = t.rowsOf others := by
  refine List.filter_congr ?_
  intro r hr
  rw [Bool.eq_iff_iff, List.contains_iff_mem, List.contains_iff_mem]
  exact h r hr

theorem Sound.remove_congr (ht : t.Sound)
    (h : ∀ id ∈ t.messages.map Row.id, id ∈ ids ↔ id ∈ others) :
    t.remove ids = t.remove others := by
  have hkeep {id : String} (hid : id ∈ t.messages.map Row.id) :
      (!ids.contains id) = !others.contains id := by
    rw [Bool.eq_iff_iff, Bool.not_eq_true', Bool.not_eq_true', ← Bool.not_eq_true,
      ← Bool.not_eq_true, List.contains_iff_mem, List.contains_iff_mem]
    exact not_congr (h id hid)
  have hmessages := List.filter_congr fun r (hr : r ∈ t.messages) => hkeep (List.mem_map_of_mem hr)
  have hpayloads := List.filter_congr fun p (hp : p ∈ t.payloads) =>
    hkeep (ht.shelved.payload_ids ▸ List.mem_map_of_mem hp)
  have hlinks := List.filter_congr fun l (hl : l ∈ t.links) => hkeep (ht.tagged.links_message l hl)
  rw [remove, remove, hmessages, hpayloads, hlinks]

end Tables

namespace Mailbox

def deleteEach (m : Mailbox) (calls : List (Instant × String)) : Mailbox :=
  calls.foldl (fun m call => (m.deleteOne call.1 call.2).2) m

structure Counts (m m' : Mailbox) (removed : Removal) : Prop where
  deleted : m'.metrics.deleted = m.metrics.deleted + removed.count.toUInt64
  bytes : m'.activity.deletedBytes = m.activity.deletedBytes + removed.bytes

namespace Counts

variable {m m' m'' : Mailbox} {removed others : Removal}

theorem nothing (m : Mailbox) : m.Counts m {} where
  deleted := (UInt64.add_zero _).symm
  bytes := (UInt64.add_zero _).symm

theorem trans (h : m.Counts m' removed) (h' : m'.Counts m'' others) :
    m.Counts m'' (removed.add others) where
  deleted := by
    have hsum : (removed.add others).count.toUInt64 =
        removed.count.toUInt64 + others.count.toUInt64 := UInt64.ofNat_add _ _
    rw [h'.deleted, h.deleted, hsum, UInt64.add_assoc]
  bytes := by
    rw [h'.bytes, h.bytes, UInt64.add_assoc]
    rfl

end Counts

variable {m : Mailbox}

theorem deleteOne_of_row (hopen : m.closed = false) (now : Instant) {id : String} {r : Row}
    (hrow : m.tables.row? id = some r) :
    (m.deleteOne now id).2.tables = m.tables.remove [id] ∧
      m.Counts (m.deleteOne now id).2 { count := 1, bytes := r.size } := by
  rcases deleteOne_cases hopen now id with ⟨hnone, -⟩ | ⟨r', hrow', heq⟩
  · rw [hnone] at hrow
    cases hrow
  · obtain rfl := Option.some.inj (hrow.symm.trans hrow')
    rw [heq]
    have hledger := ledger_announceStats
      ({ m.touch now with tables := m.tables.remove [id] }.recordRemoval
        { count := 1, bytes := r.size }) now
    constructor
    · rw [announceStats_tables, recordRemoval_tables]
    · exact ⟨congrArg Ledger.deleted hledger, congrArg Ledger.deletedBytes hledger⟩

theorem deleteEach_eq (hopen : m.closed = false) (hsound : m.tables.Sound)
    {calls : List (Instant × String)} (hids : (calls.map Prod.snd).Nodup)
    (hknown : ∀ id ∈ calls.map Prod.snd, id ∈ m.tables.messages.map Row.id) :
    ∃ removed, m.tables.removeChunks (calls.map fun call => [call.2]) =
        (removed, (m.deleteEach calls).tables) ∧ m.Counts (m.deleteEach calls) removed := by
  induction calls generalizing m with
  | nil => exact ⟨{}, rfl, .nothing m⟩
  | cons call calls ih =>
    obtain ⟨now, id⟩ := call
    simp only [List.map_cons, List.nodup_cons, List.forall_mem_cons] at hids hknown
    obtain ⟨r, hrow⟩ := Option.isSome_iff_exists.mp (Tables.isSome_row?.mpr hknown.1)
    obtain ⟨htables, hcounts⟩ := deleteOne_of_row hopen now hrow
    have hleads := leadsTo_deleteOne hopen now id
    -- the ids that follow are other ones, so there still are their messages
    have hrest : ∀ id' ∈ calls.map Prod.snd,
        id' ∈ (m.deleteOne now id).2.tables.messages.map Row.id := by
      intro id' hid'
      obtain ⟨r', hr', rfl⟩ := List.mem_map.mp (hknown.2 id' hid')
      have hother : r'.id ≠ id := fun heq => hids.1 (heq ▸ hid')
      rw [htables]
      refine List.mem_map_of_mem (List.mem_filter.mpr ⟨hr', ?_⟩)
      simpa using hother
    obtain ⟨removed, hchunks, hcounts'⟩ := ih (hleads.closed.trans hopen)
      (hleads.changes.sound hsound) hids.2 hrest
    refine ⟨_, ?_, hcounts.trans hcounts'⟩
    have hfirst : m.tables.removeChunk [id] =
        ({ count := 1, bytes := r.size }, (m.deleteOne now id).2.tables) := by
      rw [Tables.removeChunk, Tables.rowsOf_singleton hsound.shelved.ids_nodup hrow, htables]
      simp [Tables.bytesOf]
    simp only [List.map_cons, Tables.removeChunks, hfirst, hchunks]
    rfl

structure DeletesTogether (m : Mailbox) (now : Instant) (ids : List String)
    (calls : List (Instant × String)) : Prop where
  answer : (m.deleteMany now ids).1 = .ok (m.tables.known ids).length.toUInt64
  tables : (m.deleteMany now ids).2.tables = (m.deleteEach calls).tables
  deleted : (m.deleteMany now ids).2.metrics.deleted = (m.deleteEach calls).metrics.deleted
  bytes : (m.deleteMany now ids).2.activity.deletedBytes =
    (m.deleteEach calls).activity.deletedBytes
  told : (m.deleteMany now ids).2.notices = m.notices ++
    removalNotices (m.tables.known ids).length (m.deleteMany now ids).2.tables

theorem deletesTogether_of_known (hopen : m.closed = false) (hsound : m.tables.Sound)
    (now : Instant) {ids : List String} {calls : List (Instant × String)}
    (hcalls : (calls.map Prod.snd).Perm (m.tables.known ids)) :
    m.DeletesTogether now ids calls := by
  have hids : (calls.map Prod.snd).Nodup := hcalls.nodup_iff.mpr (m.tables.nodup_known ids)
  have hmem {id : String} :
      id ∈ calls.map Prod.snd ↔ id ∈ ids ∧ id ∈ m.tables.messages.map Row.id :=
    hcalls.mem_iff.trans Tables.mem_known
  have hsame {id : String} (hid : id ∈ m.tables.messages.map Row.id) :
      id ∈ ids ↔ id ∈ calls.map Prod.snd := by
    rw [hmem, and_iff_left hid]
  have hrows : m.tables.rowsOf ids = m.tables.rowsOf (calls.map Prod.snd) :=
    Tables.rowsOf_congr fun r hr => hsame (List.mem_map_of_mem hr)
  have hcount : (m.tables.rowsOf ids).length = (m.tables.known ids).length := by
    rw [hrows, hsound.shelved.length_rowsOf hids fun id hid => (hmem.mp hid).2, hcalls.length_eq]
  obtain ⟨removed, hchunks, hcounts⟩ := deleteEach_eq hopen hsound hids fun id hid =>
    (hmem.mp hid).2
  have hflat : (calls.map fun call => [call.2]).flatten = calls.map Prod.snd := by
    rw [← List.flatMap_def, ← List.map_eq_flatMap]
  rw [Tables.removeChunks_eq, hflat, ← hrows, Prod.mk.injEq] at hchunks
  obtain ⟨rfl, htables⟩ := hchunks
  have hledger := ledger_deleteMany hopen now ids
  have hremoved : (m.deleteMany now ids).2.tables = m.tables.remove ids :=
    tables_deleteMany hopen now ids
  constructor
  case answer => rw [answer_deleteMany hopen, hcount]
  case tables => rw [hremoved, ← htables, hsound.remove_congr fun id hid => hsame hid]
  case deleted => exact (congrArg Ledger.deleted hledger).trans hcounts.deleted.symm
  case bytes => exact (congrArg Ledger.deletedBytes hledger).trans hcounts.bytes.symm
  case told => rw [notices_deleteMany hopen, hcount, hremoved]

theorem deleteMany_run {t : Tables} (ht : t.Reached) {config : Config} {webhook : Bool}
    {start : Instant} {m : Mailbox} (hopen : open? config t webhook start = .ok m)
    (requests : List Request) (now : Instant) (ids : List String)
    (calls : List (Instant × String))
    (hcalls : (calls.map Prod.snd).Perm ((m.run requests).tables.known ids)) :
    (m.run requests).DeletesTogether now ids calls := by
  have hsound := (Tables.Reached.session ht hopen requests).sound
  exact deletesTogether_of_known (closed_run hopen requests) hsound now hcalls

theorem deleteMany_run_repeated :
    let m := ({ config := {}, rules := ⟨[]⟩ } : Mailbox).run
      [⟨⟨1, 0⟩, .store "a" [70, 58, 32, 120, 10, 10], by decide⟩,
       ⟨⟨2, 0⟩, .store "b" [70, 58, 32, 121, 10, 10], by decide⟩]
    m.DeletesTogether ⟨3, 0⟩ ["b", "x", "a", "b"] [(⟨3, 0⟩, "a"), (⟨4, 0⟩, "b")] :=
  have hopen : open? {} {} false ⟨0, 0⟩ = .ok { config := {}, rules := ⟨[]⟩ } := rfl
  deleteMany_run .empty hopen _ _ _ _ (by decide +kernel)

end Mailbox

end Letterbox
