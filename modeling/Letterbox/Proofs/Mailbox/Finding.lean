import Letterbox.Proofs.Mailbox.Matching

namespace Letterbox

open Query

namespace Search

theorem Tells.holds_iff {t : Tables} {r : Row} {c : Condition} {negated : Bool} {P : Prop}
    (h : Tells (conditionHolds? t r c) P) :
    holds t r ⟨c, negated⟩ = true ↔ (negated = false ↔ P) := by
  obtain ⟨b, hb, hP⟩ := h
  rw [holds, hb, ← hP]
  cases b <;> cases negated <;> simp

end Search

namespace Tables

variable {t : Tables}

def keptBy (t : Tables) (terms : List Term) : List Row :=
  t.newestFirst.filter fun r => terms.all (Search.holds t r)

theorem keptBy_subset (t : Tables) (terms : List Term) : ∀ r ∈ t.keptBy terms, r ∈ t.messages :=
  mem_of_sublist List.filter_sublist

theorem mem_keptBy_iff {terms : List Term} {r : Row} (hr : r ∈ t.messages) :
    r ∈ t.keptBy terms ↔ ∀ term ∈ terms, Search.holds t r term = true := by
  rw [keptBy, List.mem_filter, List.all_eq_true]
  exact and_iff_right (mem_newestFirst.mpr hr)

theorem Sound.ids_keptBy (ht : t.Sound) (terms : List Term) :
    (t.summaries (t.keptBy terms)).map Summary.id = (t.keptBy terms).map Row.id :=
  map_of_forall₂ (ht.shelved.shows (t.keptBy_subset terms)) fun _ _ h => h.id

theorem Sound.id_mem_keptBy_iff (ht : t.Sound) {terms : List Term} {r : Row}
    (hr : r ∈ t.messages) : r.id ∈ (t.keptBy terms).map Row.id ↔ r ∈ t.keptBy terms := by
  refine ⟨fun h => ?_, List.mem_map_of_mem⟩
  obtain ⟨other, hother, hid⟩ := List.mem_map.mp h
  -- ids are distinct, so it is this row that is kept under its id
  have hsame : other = r := List.inj_on_of_nodup_map ht.shelved.ids_nodup
    (t.keptBy_subset terms other hother) hr hid
  exact hsame ▸ hother

theorem Sound.mem_summaries_keptBy_iff (ht : t.Sound) {terms : List Term} {r : Row}
    (hr : r ∈ t.messages) {s : Summary} (hs : t.summary? r = some s) :
    s ∈ t.summaries (t.keptBy terms) ↔ r ∈ t.keptBy terms := by
  constructor
  · intro h
    have hshows : s.id = r.id := by
      obtain ⟨s', hs', hshows⟩ := ht.shelved.exists_shows hr
      rw [hs, Option.some.injEq] at hs'
      exact hs' ▸ hshows.id
    have hid := List.mem_map_of_mem (f := Summary.id) h
    rw [ht.ids_keptBy, hshows] at hid
    exact (ht.id_mem_keptBy_iff hr).mp hid
  · intro h
    exact List.mem_filterMap.mpr ⟨r, h, hs⟩

def pageOf (t : Tables) (terms : List Term) (offset limit : UInt64) : SearchResults :=
  { messages := t.summaries (page offset limit (t.keptBy terms))
    total := (t.keptBy terms).length.toUInt64 }

theorem messages_pageOf (t : Tables) (terms : List Term) {limit : UInt64}
    (hlimit : signedBound ≤ limit.toNat) :
    (t.pageOf terms 0 limit).messages = t.summaries (t.keptBy terms) := by
  rw [pageOf, page_unlimited _ hlimit]

end Tables

namespace Mailbox

variable {m : Mailbox} (hopen : m.closed = false) (now : Instant)

include hopen

theorem list_unlimited {limit : UInt64} (hlimit : Tables.signedBound ≤ limit.toNat) :
    (m.list now 0 limit).1 = .ok (m.tables.summaries m.tables.newestFirst) := by
  rw [list_of_open hopen, Tables.list_unlimited _ hlimit]

theorem search_eq_pageOf (hsound : m.tables.Sound) {query : String}
    (hlimits : InLimits (parse query)) (offset limit : UInt64) :
    (m.search now query offset limit).1 = .ok (m.tables.pageOf (parse query) offset limit) := by
  rw [search_of_matching hopen now (hsound.matching?_eq hlimits)]
  rfl

end Mailbox

end Letterbox
