import Letterbox.Proofs.Mailbox.Constants
import Letterbox.Proofs.Mailbox.Ledger
import Letterbox.Proofs.Mailbox.Listing

namespace Letterbox

namespace Tables

structure Leaves (t t' : Tables) (stays : String → Bool) : Prop where
  rows : t'.newestFirst = t.newestFirst.filter fun r => stays r.id
  payloads : t'.payloads = t.payloads.filter fun p => stays p.1
  tags : t'.tags = t.tags
  tagsOf : ∀ id, stays id = true → t'.tagsOf id = t.tagsOf id

section Remove

variable {t : Tables} {ids : List String}

theorem carries_remove {id : String} (h : id ∉ ids) : (t.remove ids).carries id = t.carries id := by
  funext g
  have hkept : (!ids.contains id) = true := by simpa using h
  rw [Bool.eq_iff_iff, carries, carries, List.contains_iff_mem, List.contains_iff_mem, remove,
    List.mem_filter]
  exact and_iff_left hkept

theorem tagsOf_remove {id : String} (h : id ∉ ids) : (t.remove ids).tagsOf id = t.tagsOf id := by
  rw [tagsOf, carries_remove h]
  rfl

theorem newestFirst_remove (t : Tables) (ids : List String) :
    (t.remove ids).newestFirst = t.newestFirst.filter fun r => !ids.contains r.id :=
  t.newestFirst_filter fun r => !ids.contains r.id

theorem leaves_remove (t : Tables) (ids : List String) :
    t.Leaves (t.remove ids) fun id => !ids.contains id where
  rows := newestFirst_remove t ids
  payloads := rfl
  tags := rfl
  tagsOf id hid := tagsOf_remove (by simpa using hid)

theorem summary?_remove {r : Row} (h : r.id ∉ ids) :
    (t.remove ids).summary? r = t.summary? r := by
  rw [summary?, tagsOf_remove h]
  rfl

theorem summaries_remaining (t : Tables) (ids : List String) :
    (t.remove ids).summaries (t.remove ids).newestFirst =
      t.summaries (t.remove ids).newestFirst := by
  refine List.filterMap_congr ?_
  intro r hr
  rw [newestFirst_remove, List.mem_filter] at hr
  exact summary?_remove (by simpa using hr.2)

theorem Sound.summaries_remove (ht : t.Sound) (ids : List String) :
    (t.remove ids).summaries (t.remove ids).newestFirst =
      (t.summaries t.newestFirst).filter fun s => !ids.contains s.id := by
  rw [summaries_remaining, newestFirst_remove]
  refine summaries_filter ?_
  intro r hr
  obtain ⟨s, hs, hshows⟩ := ht.shelved.exists_shows (mem_newestFirst.mp hr)
  exact ⟨s, hs, by rw [hshows.id]⟩

end Remove

theorem Shelved.length_rowsOf {t : Tables} (ht : t.Shelved) {ids : List String} (hids : ids.Nodup)
    (hknown : ids ⊆ t.messages.map Row.id) : (t.rowsOf ids).length = ids.length := by
  have hsub : ((t.rowsOf ids).map Row.id).Nodup :=
    ht.ids_nodup.sublist (List.filter_sublist.map Row.id)
  have hperm : ((t.rowsOf ids).map Row.id).Perm ids := by
    rw [List.perm_ext_iff_of_nodup hsub hids]
    intro id
    constructor
    · intro hid
      obtain ⟨r, hr, rfl⟩ := List.mem_map.mp hid
      exact List.contains_iff_mem.mp (List.mem_filter.mp hr).2
    · intro hid
      obtain ⟨r, hr, rfl⟩ := List.mem_map.mp (hknown hid)
      exact List.mem_map_of_mem (List.mem_filter.mpr ⟨hr, List.contains_iff_mem.mpr hid⟩)
  rw [← hperm.length_eq, List.length_map]

theorem Leaves.congr {t t' : Tables} {stays stays' : String → Bool} (h : t.Leaves t' stays)
    (ht : t.Sound) (hsame : ∀ r ∈ t.messages, stays r.id = stays' r.id)
    (hstays : ∀ id, stays' id = true → id ∈ t.messages.map Row.id) : t.Leaves t' stays' where
  rows := by
    rw [h.rows]
    refine List.filter_congr ?_
    intro r hr
    exact hsame r (mem_newestFirst.mp hr)
  payloads := by
    rw [h.payloads]
    refine List.filter_congr ?_
    intro p hp
    have hmem : p.1 ∈ t.messages.map Row.id :=
      ht.shelved.payload_ids ▸ List.mem_map_of_mem hp
    obtain ⟨r, hr, hid⟩ := List.mem_map.mp hmem
    rw [← hid]
    exact hsame r hr
  tags := h.tags
  tagsOf id hid := by
    obtain ⟨r, hr, rfl⟩ := List.mem_map.mp (hstays id hid)
    exact h.tagsOf r.id ((hsame r hr).trans hid)

end Tables

namespace Mailbox

def removalNotices (count : Nat) (t : Tables) : List Notice :=
  if count = 0 then [] else [.event (.prune count.toUInt64), .event (.stats t.stats)]

variable {m : Mailbox}

theorem closed_deleteMany (m : Mailbox) (now : Instant) (ids : List String) :
    (m.deleteMany now ids).2.closed = m.closed :=
  congrArg Constants.closed (constants_deleteMany ids)

theorem answer_deleteMany (hopen : m.closed = false) (now : Instant) (ids : List String) :
    (m.deleteMany now ids).1 = .ok (m.tables.rowsOf ids).length.toUInt64 := by
  rw [deleteMany_of_open hopen]

theorem notices_deleteMany (hopen : m.closed = false) (now : Instant) (ids : List String) :
    (m.deleteMany now ids).2.notices = m.notices ++
      removalNotices (m.tables.rowsOf ids).length (m.tables.remove ids) := by
  rw [deleteMany_of_open hopen, removalNotices]
  by_cases hnone : m.tables.rowsOf ids = []
  · rw [if_pos hnone, if_pos (List.length_eq_zero_iff.mpr hnone), List.append_nil]
  · have hopen' : (({ m with tables := m.tables.remove ids }.recordRemoval
        (.ofRows (m.tables.rowsOf ids))).notify
          (.event (.prune (m.tables.rowsOf ids).length.toUInt64))).closed = false := hopen
    rw [if_neg hnone, if_neg fun hzero => hnone (List.length_eq_zero_iff.mp hzero), announcePrune,
      announceStats_notices hopen', notify_notices, List.append_assoc]
    rfl

end Mailbox

end Letterbox
