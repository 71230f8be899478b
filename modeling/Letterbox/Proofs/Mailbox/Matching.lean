import Letterbox.Proofs.Mailbox.Damage
import Letterbox.Proofs.Mailbox.Remaining
import Letterbox.Proofs.Mailbox.Run
import Mathlib.Tactic.Set

namespace Letterbox

namespace Search

open Query Text

section Remaining

variable {t : Tables} {ids : List String} {r : Row} (hr : r.id ∉ ids)

include hr

theorem keysOf_remove : keysOf (t.remove ids) r.id = keysOf t r.id := by
  rw [keysOf, Tables.carries_remove hr]
  rfl

theorem any_links_remove :
    ((t.remove ids).links.any fun l => l.1 == r.id) = t.links.any fun l => l.1 == r.id := by
  have hkept : ∀ l : String × Nat, l.1 = r.id → l.1 ∉ ids := by
    intro l hl hmem
    exact hr (hl ▸ hmem)
  rw [Bool.eq_iff_iff, List.any_eq_true, List.any_eq_true]
  constructor
  · rintro ⟨l, hl, hid⟩
    exact ⟨l, List.mem_of_mem_filter hl, hid⟩
  · rintro ⟨l, hl, hid⟩
    refine ⟨l, List.mem_filter.mpr ⟨hl, ?_⟩, hid⟩
    simpa using hkept l (by simpa using hid)

theorem conditionHolds?_remove (c : Condition) :
    conditionHolds? (t.remove ids) r c = conditionHolds? t r c := by
  cases c with
  | text value => rw [conditionHolds?, conditionHolds?, keysOf_remove hr]
  | field field value =>
    cases field with
    | tag => simp only [conditionHolds?, fieldHolds?, keysOf_remove hr]
    | _ => rfl
  | flag flag =>
    cases flag with
    | tagged => simp only [conditionHolds?, flagHolds, any_links_remove hr]
    | _ => rfl
  | date side d => cases side <;> rfl

theorem holds_remove (term : Term) : holds (t.remove ids) r term = holds t r term := by
  rw [holds, conditionHolds?_remove hr]
  rfl

end Remaining

end Search

namespace Tables

open Query

variable {t : Tables} {query : String}

theorem Sound.matching?_eq (ht : t.Sound) (hlimits : InLimits (parse query)) :
    t.matching? query =
      .ok (t.newestFirst.filter fun r => (parse query).all (Search.holds t r)) := by
  refine matching?_of_not_blocks hlimits ?_
  intro r hr
  obtain ⟨s, -, hshows⟩ := ht.shelved.exists_shows hr
  refine Search.not_blocks_of_readable fun term _ => ?_
  exact hshows.metadata ▸ Search.not_unreadable_toJson s.parties term.condition

theorem Sound.matching?_remove (ht : t.Sound) (hlimits : InLimits (parse query)) {rows : List Row}
    (hrows : t.matching? query = .ok rows) (hleft : (t.remove (rows.map Row.id)).Sound) :
    (t.remove (rows.map Row.id)).matching? query = .ok [] := by
  rw [ht.matching?_eq hlimits, Except.ok.injEq] at hrows
  have hnone : ((t.remove (rows.map Row.id)).newestFirst.filter fun r =>
      (parse query).all (Search.holds (t.remove (rows.map Row.id)) r)) = [] := by
    rw [List.filter_eq_nil_iff]
    intro r hr hall
    rw [newestFirst_remove, List.mem_filter] at hr
    have hout : r.id ∉ rows.map Row.id := by simpa using hr.2
    have hsame : (parse query).all (Search.holds (t.remove (rows.map Row.id)) r) =
        (parse query).all (Search.holds t r) :=
      congrArg (parse query).all (funext (Search.holds_remove hout))
    -- if it matched it would not have been left
    have hmatch : r ∈ rows := hrows ▸ List.mem_filter.mpr ⟨hr.1, hsame ▸ hall⟩
    exact hout (List.mem_map_of_mem hmatch)
  rw [hleft.matching?_eq hlimits, hnone]

end Tables

namespace Mailbox

open Query

structure DeletesFound (m : Mailbox) (now : Instant) (query : String) (l : List Summary)
    (found : SearchResults) : Prop where
  listed : ∀ limit : UInt64, Tables.signedBound ≤ limit.toNat → (m.list now 0 limit).1 = .ok l
  searched : ∀ limit : UInt64, Tables.signedBound ≤ limit.toNat →
    (m.search now query 0 limit).1 = .ok found
  answer : (m.deleteMatching now query).1 = .ok found.total
  left : ∀ limit : UInt64, Tables.signedBound ≤ limit.toNat →
    ((m.deleteMatching now query).2.list now 0 limit).1 =
      .ok (l.filter fun s => !(found.messages.map Summary.id).contains s.id)
  leaves : m.tables.Leaves (m.deleteMatching now query).2.tables
    fun id => !(found.messages.map Summary.id).contains id
  nothing : ∀ later offset limit,
    ((m.deleteMatching now query).2.search later query offset limit).1 =
      .ok { messages := [], total := 0 }
  again : ∀ later, (m.deleteMatching now query).2.deleteMatching later query =
    (.ok 0, (m.deleteMatching now query).2.touch later)

variable {m : Mailbox}

theorem deleteMatching_of_matching (hopen : m.closed = false) (now : Instant) {query : String}
    {rows : List Row} (h : m.tables.matching? query = .ok rows) :
    m.deleteMatching now query = (m.touch now).deleteMany now (rows.map Row.id) := by
  rcases deleteMatching_cases hopen now query with ⟨why, hwhy, -⟩ | ⟨rows', hrows', heq⟩
  · rw [h] at hwhy
    cases hwhy
  · rw [h, Except.ok.injEq] at hrows'
    rw [heq, hrows']

theorem deletesFound (hopen : m.closed = false) (hsound : m.tables.Sound) (now : Instant)
    {query : String} (hlimits : InLimits (parse query)) :
    ∃ l found, m.DeletesFound now query l found := by
  have hmatching := hsound.matching?_eq hlimits
  set rows := m.tables.newestFirst.filter fun r => (parse query).all (Search.holds m.tables r)
  have hmem : ∀ r ∈ rows, r ∈ m.tables.messages := by
    intro r hr
    exact Tables.mem_newestFirst.mp (List.mem_of_mem_filter hr)
  have hfound : (m.tables.summaries rows).map Summary.id = rows.map Row.id :=
    Tables.map_of_forall₂ (hsound.shelved.shows hmem) fun _ _ h => h.id
  have hnodup : (rows.map Row.id).Nodup := by
    have hall := (m.tables.newestFirst_perm.map Row.id).nodup_iff.mpr hsound.shelved.ids_nodup
    exact hall.sublist (List.filter_sublist.map Row.id)
  have hcount : (m.tables.rowsOf (rows.map Row.id)).length = rows.length := by
    rw [hsound.shelved.length_rowsOf hnodup (List.map_subset Row.id hmem), List.length_map]
  have hdelete := deleteMatching_of_matching hopen now hmatching
  have htables : (m.deleteMatching now query).2.tables = m.tables.remove (rows.map Row.id) := by
    rw [hdelete]
    exact tables_deleteMany (m := m.touch now) hopen now (rows.map Row.id)
  have hleads := leadsTo_deleteMatching hopen now query
  have hclosed := hleads.closed.trans hopen
  have hleft := htables ▸ hleads.changes.sound hsound
  have hnothing : (m.deleteMatching now query).2.tables.matching? query = .ok [] := by
    rw [htables]
    exact hsound.matching?_remove hlimits hmatching hleft
  refine ⟨m.tables.summaries m.tables.newestFirst,
    { messages := m.tables.summaries rows, total := rows.length.toUInt64 }, ?_⟩
  constructor
  case listed =>
    intro limit hlimit
    rw [list, look_of_open hopen, Tables.list_unlimited _ hlimit]
  case searched =>
    intro limit hlimit
    rw [search, look_of_open hopen, Tables.search?_of_matching hlimit hmatching]
  case answer =>
    rw [hdelete, ← hcount]
    exact answer_deleteMany (m := m.touch now) hopen now (rows.map Row.id)
  case left =>
    intro limit hlimit
    rw [list, look_of_open hclosed, Tables.list_unlimited _ hlimit, htables,
      hsound.summaries_remove, hfound]
  case leaves =>
    rw [htables, hfound]
    exact m.tables.leaves_remove (rows.map Row.id)
  case nothing =>
    intro later offset limit
    rw [search, look_of_open hclosed, Tables.search?_eq, hnothing]
    simp [Except.map, Tables.page, Tables.summaries]
  case again =>
    intro later
    rw [deleteMatching_of_matching hclosed later hnothing]
    rfl

theorem deleteMatching_run {t : Tables} (ht : t.Reached) {config : Config} {webhook : Bool}
    {start : Instant} {m : Mailbox} (hopen : open? config t webhook start = .ok m)
    (requests : List Request) (now : Instant) {query : String}
    (hlimits : InLimits (parse query)) :
    ∃ l found, (m.run requests).DeletesFound now query l found := by
  have hsound := (Tables.Reached.session ht hopen requests).sound
  exact deletesFound (closed_run hopen requests) hsound now hlimits

theorem deleteMatching_run_tagged :
    let m := ({ config := {}, rules := ⟨[]⟩ } : Mailbox).run
      [⟨⟨1, 0⟩, .store "a" [70, 58, 32, 120, 10, 10], by decide⟩,
       ⟨⟨2, 0⟩, .store "b" [70, 58, 32, 121, 10, 10], by decide⟩,
       ⟨⟨3, 0⟩, .setTags "a" ["Work"], by decide⟩]
    ∃ l found, m.DeletesFound ⟨4, 0⟩ "tag:work -is:read" l found :=
  have hopen : open? {} {} false ⟨0, 0⟩ = .ok { config := {}, rules := ⟨[]⟩ } := rfl
  deleteMatching_run .empty hopen _ _ ⟨by decide +kernel, by decide +kernel⟩

end Mailbox

end Letterbox
