import Letterbox.Proofs.Mailbox.Listing
import Letterbox.Proofs.Mailbox.Run

namespace Letterbox

def Notice.stats? : Notice → Option Stats
  | .event (.stats s) => some s
  | _ => none

def Mailbox.lastStats (m : Mailbox) (first : Stats) : Stats :=
  (m.notices.filterMap Notice.stats?).getLast?.getD first

theorem Mailbox.LeadsTo.lastStats_eq {m m' : Mailbox} (h : m.LeadsTo m') (hnew : m.notices = []) :
    m'.lastStats m.tables.stats = m'.tables.stats := by
  rcases h.informs with ⟨hnotices, hstats⟩ | ⟨told, hnotices⟩
  · rw [lastStats, hnotices, hnew, hstats]
    rfl
  · have hlast : m'.notices.filterMap Notice.stats? =
        (m.notices ++ told).filterMap Notice.stats? ++ [m'.tables.stats] := by
      rw [hnotices, List.filterMap_append]
      rfl
    rw [lastStats, hlast, List.getLast?_concat, Option.getD_some]

namespace Tables

open Text

variable {t : Tables}

theorem Tagged.pairwise_vocabulary (ht : t.Tagged) :
    t.vocabulary.Pairwise fun a b => (Tag.key a).toList < (Tag.key b).toList := by
  refine List.pairwise_map.mpr (ht.pairwise_sortedTags.imp_of_mem ?_)
  intro a b ha hb hlt
  rw [← (ht.normal a (mem_sortBy.mp ha)).2, ← (ht.normal b (mem_sortBy.mp hb)).2]
  exact hlt

theorem mem_vocabulary_of_mem_tagsOf {id name : String} (h : name ∈ t.tagsOf id) :
    name ∈ t.vocabulary := by
  obtain ⟨g, hg, rfl⟩ := List.mem_map.mp h
  exact List.mem_map_of_mem (List.mem_of_mem_filter hg)

theorem Shelved.length_unread (ht : t.Shelved) :
    ((t.summaries t.newestFirst).filter fun s => !s.read).length =
      (t.messages.filter fun r => !r.read).length := by
  have hflags : (t.summaries t.newestFirst).map Summary.read = t.newestFirst.map Row.read :=
    map_of_forall₂ ht.shows_newestFirst fun _ _ h => h.read
  -- the list is in another order than the rows
  have hperm := (t.newestFirst_perm.map Row.read).countP_eq (!·)
  rw [← hflags] at hperm
  rw [← List.countP_eq_length_filter, ← List.countP_eq_length_filter]
  simpa only [List.countP_map, Function.comp_def] using hperm

end Tables

namespace Mailbox

theorem stats_run {t : Tables} (ht : t.Reached) {config : Config} {webhook : Bool}
    {start : Instant} {m : Mailbox} (hopen : open? config t webhook start = .ok m)
    (requests : List Request) (now : Instant) {limit : UInt64}
    (hlimit : Tables.signedBound ≤ limit.toNat) :
    ∃ first s l, (m.stats start).1 = .ok first ∧ ((m.run requests).stats now).1 = .ok s ∧
      ((m.run requests).list now 0 limit).1 = .ok l ∧
      s = (m.run requests).lastStats first ∧
      s.total = l.length.toUInt64 ∧
      s.unread = (l.filter fun e => !e.read).length.toUInt64 ∧
      (s.tags.Pairwise fun a b => (Tag.key a).toList < (Tag.key b).toList) ∧
      ∀ e ∈ l, ∀ name ∈ e.tags, name ∈ s.tags := by
  have hsound := (Tables.Reached.session ht hopen requests).sound
  obtain ⟨-, hclosed, hnotices⟩ := open?_cases hopen
  have hrun := leadsTo_run hclosed requests
  have hclosed' := hrun.closed.trans hclosed
  refine ⟨m.tables.stats, (m.run requests).tables.stats,
    (m.run requests).tables.summaries (m.run requests).tables.newestFirst,
    ?_, ?_, ?_, ?_, ?_, ?_, ?_, ?_⟩
  · rw [stats, look_of_open hclosed]
  · rw [stats, look_of_open hclosed']
  · rw [list, look_of_open hclosed', Tables.list_unlimited _ hlimit]
  · exact (hrun.lastStats_eq hnotices).symm
  · rw [hsound.shelved.length_summaries]
    rfl
  · rw [hsound.shelved.length_unread]
    rfl
  · exact hsound.tagged.pairwise_vocabulary
  · intro e he name hname
    obtain ⟨r, -, hr⟩ := List.mem_filterMap.mp he
    obtain ⟨parties, -, rfl⟩ := Option.map_eq_some_iff.mp hr
    exact Tables.mem_vocabulary_of_mem_tagsOf hname

theorem stats_run_store :
    let m : Mailbox := { config := {}, rules := ⟨[]⟩ }
    let after := m.run
      [⟨⟨1, 0⟩, .store "a" [70, 58, 32, 120, 10, 10], by decide⟩,
       ⟨⟨2, 0⟩, .setTags "a" ["x", "Y"], by decide⟩]
    ∃ first s l, (m.stats ⟨0, 0⟩).1 = .ok first ∧ (after.stats ⟨3, 0⟩).1 = .ok s ∧
      (after.list ⟨3, 0⟩ 0 (0 - 1)).1 = .ok l ∧ s = after.lastStats first ∧
      s.total = l.length.toUInt64 ∧
      s.unread = (l.filter fun e => !e.read).length.toUInt64 ∧
      (s.tags.Pairwise fun a b => (Tag.key a).toList < (Tag.key b).toList) ∧
      ∀ e ∈ l, ∀ name ∈ e.tags, name ∈ s.tags :=
  have hopen : open? {} {} false ⟨0, 0⟩ = .ok { config := {}, rules := ⟨[]⟩ } := rfl
  stats_run .empty hopen _ _ (by decide)

end Mailbox

end Letterbox
