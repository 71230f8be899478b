import Letterbox.Proofs.Mailbox.Remaining
import Letterbox.Proofs.Mailbox.Retention
import Letterbox.Proofs.Mailbox.Run

namespace Letterbox

section Survivors

variable {α β : Type}

/-- What survives of things that have a time, the newest first: so many from the start, or all if
the number is 0, and of these the ones that are not from before a time. -/
def survivors (most : UInt64) (since : Option Int) (created : α → Int) (l : List α) : List α :=
  (if most = 0 then l else l.take most.toNat).filter fun a =>
    since.all fun ms => decide (ms ≤ created a)

theorem survivors_sublist (most : UInt64) (since : Option Int) (created : α → Int) (l : List α) :
    (survivors most since created l).Sublist l := by
  unfold survivors
  split
  · exact List.filter_sublist
  · exact List.filter_sublist.trans (List.take_sublist _ _)

theorem length_survivors_le {most : UInt64} (hmost : most ≠ 0) (since : Option Int)
    (created : α → Int) (l : List α) : (survivors most since created l).length ≤ most.toNat := by
  rw [survivors, if_neg hmost]
  exact (List.length_filter_le _ _).trans (List.length_take_le _ _)

end Survivors

namespace Tables

def outdated (t : Tables) (most : UInt64) (since : Option Int) : List String :=
  (if most = 0 then [] else (t.newestFirst.drop most.toNat).map Row.id) ++
    match since with
    | none => []
    | some ms => (t.messages.filter fun r => decide (r.created < ms)).map Row.id

section Distinct

variable {rows : List Row} (hids : (rows.map Row.id).Nodup)

include hids

theorem contains_ids {part : List Row} (hpart : part ⊆ rows) {r : Row} (hr : r ∈ rows) :
    (part.map Row.id).contains r.id = true ↔ r ∈ part := by
  rw [List.contains_iff_mem, List.mem_map]
  constructor
  · rintro ⟨s, hs, hid⟩
    exact List.inj_on_of_nodup_map hids (hpart hs) hr hid ▸ hs
  · intro hmem
    exact ⟨r, hmem, rfl⟩

theorem filter_not_drop (n : Nat) :
    (rows.filter fun r => !((rows.drop n).map Row.id).contains r.id) = rows.take n := by
  have hdropped {r : Row} (hr : r ∈ rows) :
      ((rows.drop n).map Row.id).contains r.id = true ↔ r ∈ rows.drop n :=
    contains_ids hids (List.drop_subset n rows) hr
  have hnodup : (rows.take n ++ rows.drop n).Nodup := by
    rw [List.take_append_drop]
    exact hids.of_map
  have hsplit := List.filter_append (rows.take n) (rows.drop n)
    (p := fun r => !((rows.drop n).map Row.id).contains r.id)
  rw [List.take_append_drop] at hsplit
  rw [hsplit, List.filter_eq_self.mpr, List.filter_eq_nil_iff.mpr, List.append_nil]
  · intro r hr
    simpa using (hdropped (List.mem_of_mem_drop hr)).mpr hr
  · intro r hr
    have hnot : r ∉ rows.drop n := List.disjoint_of_nodup_append hnodup hr
    rw [Bool.not_eq_true', ← Bool.not_eq_true, hdropped (List.mem_of_mem_take hr)]
    exact hnot

theorem filter_not_older {part : List Row} (hpart : part ⊆ rows) (ms : Int) :
    (part.filter fun r =>
        !((rows.filter fun r => decide (r.created < ms)).map Row.id).contains r.id) =
      part.filter fun r => decide (ms ≤ r.created) := by
  refine List.filter_congr ?_
  intro r hr
  have holder : ((rows.filter fun r => decide (r.created < ms)).map Row.id).contains r.id = true ↔
      r ∈ rows.filter fun r => decide (r.created < ms) :=
    contains_ids hids (List.filter_subset_self rows) (hpart hr)
  rw [List.mem_filter, and_iff_right (hpart hr), decide_eq_true_eq, ← not_le] at holder
  rw [Bool.eq_iff_iff, Bool.not_eq_true', ← Bool.not_eq_true, holder, not_not, decide_eq_true_eq]

end Distinct

variable {t : Tables}

theorem filter_not_outdated (hids : (t.messages.map Row.id).Nodup) (most : UInt64)
    (since : Option Int) :
    (t.newestFirst.filter fun r => !(t.outdated most since).contains r.id) =
      survivors most since Row.created t.newestFirst := by
  have hmessages : t.newestFirst ⊆ t.messages := fun _ hr => mem_newestFirst.mp hr
  have hids' : (t.newestFirst.map Row.id).Nodup :=
    (t.newestFirst_perm.map Row.id).nodup_iff.mpr hids
  have hexcess : (t.newestFirst.filter fun r => !(if most = 0 then []
      else (t.newestFirst.drop most.toNat).map Row.id).contains r.id) =
        if most = 0 then t.newestFirst else t.newestFirst.take most.toNat := by
    split
    · exact List.filter_eq_self.mpr (by simp)
    · exact filter_not_drop hids' most.toNat
  have hkept : (if most = 0 then t.newestFirst else t.newestFirst.take most.toNat) ⊆
      t.messages := by
    split
    · exact hmessages
    · exact fun _ hr => hmessages (List.mem_of_mem_take hr)
  simp only [outdated, List.contains_append, Bool.not_or]
  rw [survivors, ← List.filter_filter, List.filter_comm, hexcess]
  cases since with
  | none => simp
  | some ms => exact filter_not_older hids hkept ms

theorem outdated_of_survivors {most : UInt64} {since : Option Int} {l : List Row}
    (h : t.newestFirst = survivors most since Row.created l) : t.outdated most since = [] := by
  unfold outdated
  rw [List.append_eq_nil_iff]
  constructor
  · split
    · rfl
    · rename_i hmost
      have hfew := length_survivors_le hmost since Row.created l
      rw [h, List.drop_eq_nil_of_le hfew]
      rfl
  · cases since with
    | none => rfl
    | some ms =>
      rw [List.map_eq_nil_iff, List.filter_eq_nil_iff]
      intro r hr
      have hmem : r ∈ survivors most (some ms) Row.created l := h ▸ mem_newestFirst.mpr hr
      have hrecent := (List.mem_filter.mp hmem).2
      simpa using hrecent

theorem summaries_take {rows : List Row} (hshown : ∀ r ∈ rows, ∃ s, t.summary? r = some s)
    (n : Nat) : t.summaries (rows.take n) = (t.summaries rows).take n := by
  induction rows generalizing n with
  | nil => simp [summaries]
  | cons r rows ih =>
    obtain ⟨s, hs⟩ := hshown r (by simp)
    have hrest := ih fun r' hr' => hshown r' (by simp [hr'])
    cases n with
    | zero => rfl
    | succ n =>
      have hcons (l : List Row) : t.summaries (r :: l) = s :: t.summaries l :=
        List.filterMap_cons_some hs
      rw [List.take_succ_cons, hcons, hcons, List.take_succ_cons, hrest]

theorem Sound.summaries_survivors (ht : t.Sound) (most : UInt64) (since : Option Int) :
    t.summaries (survivors most since Row.created t.newestFirst) =
      survivors most since (fun s => s.created.millis) (t.summaries t.newestFirst) := by
  have hshown {r : Row} (hr : r ∈ t.newestFirst) : ∃ s, t.summary? r = some s ∧ t.Shows r s :=
    ht.shelved.exists_shows (mem_newestFirst.mp hr)
  have hfilter {rows : List Row} (hrows : rows ⊆ t.newestFirst) :
      t.summaries (rows.filter fun r => since.all fun ms => decide (ms ≤ r.created)) =
        (t.summaries rows).filter fun s => since.all fun ms => decide (ms ≤ s.created.millis) := by
    refine summaries_filter ?_
    intro r hr
    obtain ⟨s, hs, hshows⟩ := hshown (hrows hr)
    exact ⟨s, hs, by rw [hshows.created]⟩
  have htake (n : Nat) : t.summaries (t.newestFirst.take n) = (t.summaries t.newestFirst).take n :=
    summaries_take (fun _ hr => (hshown hr).imp fun _ hs => hs.1) n
  unfold survivors
  split
  · exact hfilter (List.Subset.refl _)
  · rw [hfilter (List.take_subset _ _), htake]

theorem newestFirst_remove_outdated (ht : t.Shelved) (most : UInt64) (since : Option Int) :
    (t.remove (t.outdated most since)).newestFirst =
      survivors most since Row.created t.newestFirst := by
  rw [newestFirst_remove, filter_not_outdated ht.ids_nodup]

theorem mem_messages_of_mem_survivors {most : UInt64} {since : Option Int} {r : Row}
    (hr : r ∈ survivors most since Row.created t.newestFirst) : r ∈ t.messages :=
  mem_newestFirst.mp ((survivors_sublist _ _ _ _).subset hr)

theorem Sound.length_outdated (ht : t.Sound) (most : UInt64) (since : Option Int) :
    (t.rowsOf (t.outdated most since)).length = (t.summaries t.newestFirst).length -
      (survivors most since (fun s => s.created.millis) (t.summaries t.newestFirst)).length := by
  have hrows : ∀ r ∈ survivors most since Row.created t.newestFirst, r ∈ t.messages :=
    fun _ hr => mem_messages_of_mem_survivors hr
  have hshows := ht.shelved.shows hrows
  have hremoved := t.length_rowsOf_add (t.outdated most since)
  have hremaining := (t.remove (t.outdated most since)).newestFirst_perm.length_eq
  rw [newestFirst_remove_outdated ht.shelved] at hremaining
  rw [← ht.summaries_survivors, ht.shelved.length_summaries, ← hshows.length_eq]
  omega

theorem Sound.leaves_survivors (ht : t.Sound) (most : UInt64) (since : Option Int) :
    t.Leaves (t.remove (t.outdated most since)) fun id =>
      ((survivors most since (fun s => s.created.millis)
        (t.summaries t.newestFirst)).map Summary.id).contains id := by
  have hrows : survivors most since Row.created t.newestFirst ⊆ t.messages :=
    fun _ hr => mem_messages_of_mem_survivors hr
  rw [← ht.summaries_survivors, map_of_forall₂ (ht.shelved.shows hrows) fun _ _ h => h.id]
  refine (t.leaves_remove (t.outdated most since)).congr ht ?_ ?_
  · intro r hr
    rw [Bool.eq_iff_iff, contains_ids ht.shelved.ids_nodup hrows hr,
      ← newestFirst_remove_outdated ht.shelved, newestFirst_remove, List.mem_filter,
      mem_newestFirst, and_iff_right hr]
  · intro id hid
    rw [List.contains_iff_mem] at hid
    exact List.map_subset Row.id hrows hid

end Tables

namespace Mailbox

def keptSince (now : Instant) (hours : Option UInt64) : Option Int :=
  hours.map fun h => now.millis - signedHours h * 3600000

def HasCutoff (now : Instant) (hours : Option UInt64) : Prop :=
  ∀ h ∈ hours, Instant.firstSecond ≤ now.seconds - signedHours h * 3600 ∧
    now.seconds - signedHours h * 3600 ≤ Instant.lastSecond

structure PrunesTo (m : Mailbox) (now : Instant) (l kept : List Summary) : Prop where
  listed : ∀ limit : UInt64, Tables.signedBound ≤ limit.toNat → (m.list now 0 limit).1 = .ok l
  answer : (m.prune now).1 = .ok (l.length - kept.length).toUInt64
  left : ∀ limit : UInt64, Tables.signedBound ≤ limit.toNat →
    ((m.prune now).2.list now 0 limit).1 = .ok kept
  leaves : m.tables.Leaves (m.prune now).2.tables fun id => (kept.map Summary.id).contains id
  told : (m.prune now).2.notices = m.notices ++
    removalNotices (l.length - kept.length) (m.prune now).2.tables
  again : (m.prune now).2.prune now = (.ok 0, (m.prune now).2)

variable {m : Mailbox}

theorem retaining_of_config {m' : Mailbox} {most : UInt64} {hours : Option UInt64}
    (h : m'.config = (m.retaining most hours).config) : m'.retaining most hours = m' := by
  rw [retaining, h]
  cases m'
  cases h
  rfl

section Open

variable (hopen : m.closed = false) {now : Instant} (hnow : now.isDated = true) {most : UInt64}
  (hmost : most.toNat < Tables.signedBound) {hours : Option UInt64} (hhours : HasCutoff now hours)

include hopen hnow hmost hhours

theorem outdated?_eq_outdated :
    (m.retaining most hours).outdated? now =
      .ok (m.tables.outdated most (keptSince now hours)) := by
  have hexcess : (m.retaining most hours).excess? = .ok (if most = 0 then []
      else (m.tables.newestFirst.drop most.toNat).map Row.id) := by
    split
    · rename_i hzero
      subst hzero
      rfl
    · rename_i hne
      rw [excess?_retaining m hne, ask_of_open hopen, Tables.page_after _ hmost]
  have hexpired : (m.retaining most hours).expired? now = .ok (match keptSince now hours with
      | none => []
      | some ms =>
        (m.tables.messages.filter fun r => decide (r.created < ms)).map Row.id) := by
    cases hours with
    | none => rfl
    | some h =>
      obtain ⟨hfirst, hlast⟩ := hhours h rfl
      exact expired?_of_dated hopen hnow hfirst hlast
  exact outdated?_eq hexcess hexpired

theorem prune_eq_deleteMany :
    (m.retaining most hours).prune now = (m.retaining most hours).deleteMany now
      (m.tables.outdated most (keptSince now hours)) := by
  simp only [prune, outdated?_eq_outdated hopen hnow hmost hhours]

theorem prunesTo_survivors (hsound : m.tables.Sound) :
    (m.retaining most hours).PrunesTo now (m.tables.summaries m.tables.newestFirst)
      (survivors most (keptSince now hours) (fun s => s.created.millis)
        (m.tables.summaries m.tables.newestFirst)) := by
  let ids := m.tables.outdated most (keptSince now hours)
  have hopen' : (m.retaining most hours).closed = false := hopen
  have hprune : (m.retaining most hours).prune now = (m.retaining most hours).deleteMany now ids :=
    prune_eq_deleteMany hopen hnow hmost hhours
  have htables : ((m.retaining most hours).prune now).2.tables = m.tables.remove ids := by
    rw [hprune]
    exact tables_deleteMany hopen' now ids
  have hclosed : ((m.retaining most hours).prune now).2.closed = false := by
    rw [hprune, closed_deleteMany]
    exact hopen
  have hleft : (m.tables.remove ids).newestFirst =
      survivors most (keptSince now hours) Row.created m.tables.newestFirst :=
    Tables.newestFirst_remove_outdated hsound.shelved most (keptSince now hours)
  constructor
  case listed =>
    intro limit hlimit
    rw [list, look_of_open hopen', Tables.list_unlimited _ hlimit]
    rfl
  case answer =>
    rw [hprune, ← hsound.length_outdated]
    exact answer_deleteMany hopen' now ids
  case left =>
    intro limit hlimit
    rw [list, look_of_open hclosed, Tables.list_unlimited _ hlimit, htables,
      Tables.summaries_remaining, hleft, hsound.summaries_survivors]
  case leaves =>
    rw [htables]
    exact hsound.leaves_survivors most (keptSince now hours)
  case told =>
    rw [htables, ← hsound.length_outdated, hprune]
    exact notices_deleteMany hopen' now ids
  case again =>
    -- what is left survives once more
    have hconfig :
        ((m.retaining most hours).prune now).2.config = (m.retaining most hours).config :=
      congrArg Constants.config constants_prune
    have hnone := outdated?_eq_outdated hclosed hnow hmost hhours
    rw [retaining_of_config hconfig, Tables.outdated_of_survivors (htables ▸ hleft)] at hnone
    rw [prune, hnone]
    rfl

end Open

theorem prune_run {t : Tables} (ht : t.Reached) {config : Config} {webhook : Bool}
    {start : Instant} {m : Mailbox} (hopen : open? config t webhook start = .ok m)
    (requests : List Request) (now : Instant) (hnow : now.isDated = true) (most : UInt64)
    (hmost : most.toNat < Tables.signedBound) (hours : Option UInt64)
    (hhours : HasCutoff now hours) :
    ∃ l, ((m.run requests).retaining most hours).PrunesTo now l
      (survivors most (keptSince now hours) (fun s => s.created.millis) l) := by
  have hsound := (Tables.Reached.session ht hopen requests).sound
  exact ⟨_, prunesTo_survivors (closed_run hopen requests) hnow hmost hhours hsound⟩

theorem prune_run_both_limits :
    let m := ({ config := {}, rules := ⟨[]⟩ } : Mailbox).run
      [⟨⟨0, 0⟩, .store "a" [70, 58, 32, 120, 10, 10], by decide⟩,
       ⟨⟨7000, 0⟩, .store "b" [70, 58, 32, 120, 10, 10], by decide⟩,
       ⟨⟨7100, 0⟩, .store "c" [70, 58, 32, 120, 10, 10], by decide⟩]
    ∃ kept, (m.retaining 2 (some 1)).PrunesTo ⟨10700, 0⟩ (m.tables.summaries m.tables.messages)
      kept ∧ kept.map Summary.id = ["c"] := by
  intro m
  have hopen : open? {} {} false ⟨0, 0⟩ = .ok { config := {}, rules := ⟨[]⟩ } := rfl
  obtain ⟨l, hl⟩ := prune_run .empty hopen
    [⟨⟨0, 0⟩, .store "a" [70, 58, 32, 120, 10, 10], by decide⟩,
     ⟨⟨7000, 0⟩, .store "b" [70, 58, 32, 120, 10, 10], by decide⟩,
     ⟨⟨7100, 0⟩, .store "c" [70, 58, 32, 120, 10, 10], by decide⟩]
    ⟨10700, 0⟩ (by decide) 2 (by decide) (some 1)
    (by rintro h ⟨⟩; rw [Instant.firstSecond_eq, Instant.lastSecond_eq]; decide)
  have htimes : m.tables.messages.map Row.created = [7100000, 7000000, 0] := by decide +kernel
  have hsorted : m.tables.newestFirst = m.tables.messages := by
    refine List.mergeSort_of_pairwise ?_
    have htimes' :
        (m.tables.messages.map Row.created).Pairwise fun a b => decide (b ≤ a) = true := by
      rw [htimes]
      decide
    exact List.pairwise_map.mp htimes'
  have hall : l = m.tables.summaries m.tables.messages := by
    have hopen' : (m.retaining 2 (some 1)).closed = false := by decide +kernel
    have hlisted := hl.listed (0 - 1) (by decide)
    rw [list, look_of_open hopen', Tables.list_unlimited _ (by decide)] at hlisted
    exact hsorted ▸ (Except.ok.inj hlisted).symm
  subst hall
  exact ⟨_, hl, by decide +kernel⟩

end Mailbox

end Letterbox
