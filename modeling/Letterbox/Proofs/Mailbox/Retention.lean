import Letterbox.Proofs.Mailbox.Ledger
import Letterbox.Proofs.Mailbox.Listing
import Mathlib.Data.List.Nodup

namespace Letterbox

namespace Tables

theorem rowsOf_subset {t : Tables} {ids others : List String} (h : ids ⊆ others) :
    t.rowsOf ids ⊆ t.rowsOf others := by
  intro r hr
  simp only [rowsOf, List.mem_filter, List.contains_eq_mem, decide_eq_true_eq] at hr ⊢
  exact ⟨hr.1, h hr.2⟩

theorem rowsOf_map_filter {t : Tables} (hids : (t.messages.map Row.id).Nodup) (p : Row → Bool) :
    t.rowsOf ((t.messages.filter p).map Row.id) = t.messages.filter p := by
  refine List.filter_congr ?_
  intro r hr
  rw [Bool.eq_iff_iff, List.contains_eq_mem, decide_eq_true_eq, List.mem_map]
  constructor
  · rintro ⟨s, hs, hid⟩
    obtain ⟨hmem, hp⟩ := List.mem_filter.mp hs
    rwa [← List.inj_on_of_nodup_map hids hmem hr hid]
  · intro hp
    exact ⟨r, List.mem_filter.mpr ⟨hr, hp⟩, rfl⟩

theorem rowsOf_newestFirst (t : Tables) (ids : List String) :
    t.rowsOf (t.newestFirst.map Row.id ++ ids) = t.messages := by
  refine List.filter_eq_self.mpr ?_
  intro r hr
  rw [List.contains_eq_mem, decide_eq_true_eq, List.mem_append, List.mem_map]
  exact Or.inl ⟨r, mem_newestFirst.mpr hr, rfl⟩

theorem page_after {α : Type} (l : List α) {most : UInt64} (h : most.toNat < signedBound) :
    page most (0 - 1) l = l.drop most.toNat := by
  have hlimit : ¬ (0 - 1 : UInt64).toNat < signedBound := by decide
  rw [page, if_pos h, if_neg hlimit]

theorem page_from_start {α : Type} (l : List α) {most : UInt64} (h : signedBound ≤ most.toNat) :
    page most (0 - 1) l = l := by
  have hlimit : ¬ (0 - 1 : UInt64).toNat < signedBound := by decide
  rw [page, if_neg (Nat.not_lt.mpr h), if_neg hlimit]

end Tables

namespace Mailbox

def retaining (m : Mailbox) (most : UInt64) (hours : Option UInt64) : Mailbox :=
  { m with config := { m.config with
      retention := { m.config.retention with maxMessages := most, maxAgeHours := hours } } }

def pruned (m : Mailbox) (now : Instant) : List Row :=
  m.tables.lost (m.prune now).2.tables

variable {m : Mailbox}

theorem prune_of_outdated (hopen : m.closed = false) {now : Instant} {ids : List String}
    (h : m.outdated? now = .ok ids) :
    (m.prune now).1 = .ok (m.pruned now).length.toUInt64 ∧
      m.pruned now = m.tables.rowsOf ids := by
  have hprune : m.prune now = m.deleteMany now ids := by simp only [prune, h]
  have hpruned : m.pruned now = m.tables.rowsOf ids := by
    rw [pruned, hprune, tables_deleteMany hopen, Tables.lost_remove]
  refine ⟨?_, hpruned⟩
  rw [hpruned, hprune, deleteMany_of_open hopen]

theorem excess?_retaining (m : Mailbox) {most : UInt64} (hmost : most ≠ 0) (hours : Option UInt64) :
    (m.retaining most hours).excess? = m.ask fun t =>
      .ok ((Tables.page most (0 - 1) t.newestFirst).map Row.id) := by
  simp [excess?, retaining, ask, hmost]

theorem outdated?_eq {now : Instant} {excess expired : List String}
    (hexcess : m.excess? = .ok excess) (hexpired : m.expired? now = .ok expired) :
    m.outdated? now = .ok (excess ++ expired) := by
  rw [outdated?, hexcess, hexpired]
  rfl

theorem expired_of_prune {most : UInt64} (hmost : most ≠ 0) {hours : Option UInt64} {now : Instant}
    {n : UInt64} (h : ((m.retaining most hours).prune now).1 = .ok n) :
    m.closed = false ∧ ∃ expired, (m.retaining most hours).expired? now = .ok expired := by
  have hexcess := excess?_retaining m hmost hours
  cases hclosed : m.closed with
  | true =>
    have hrefused : (m.retaining most hours).outdated? now = .error .closed := by
      rw [outdated?, hexcess, ask, if_pos hclosed]
      rfl
    simp [prune, hrefused] at h
  | false =>
    refine ⟨rfl, ?_⟩
    rw [ask_of_open hclosed] at hexcess
    cases hexpired : (m.retaining most hours).expired? now with
    | ok expired => exact ⟨expired, rfl⟩
    | error why =>
      have hfailed : (m.retaining most hours).outdated? now = .error why := by
        rw [outdated?, hexcess, hexpired]
        rfl
      simp [prune, hfailed] at h

theorem prune_of_expired (hopen : m.closed = false) {most : UInt64} (hmost : most ≠ 0)
    {hours : Option UInt64} {now : Instant} {expired : List String}
    (hexpired : (m.retaining most hours).expired? now = .ok expired) :
    ((m.retaining most hours).prune now).1 =
        .ok ((m.retaining most hours).pruned now).length.toUInt64 ∧
      (m.retaining most hours).pruned now = m.tables.rowsOf
        ((Tables.page most (0 - 1) m.tables.newestFirst).map Row.id ++ expired) := by
  have hexcess := excess?_retaining m hmost hours
  rw [ask_of_open hopen] at hexcess
  exact prune_of_outdated (m := m.retaining most hours) hopen (outdated?_eq hexcess hexpired)

theorem prune_retaining {now : Instant} {hours : Option UInt64} (most more : UInt64)
    (hmost : 0 < most) (hmore : most ≤ more) {n : UInt64}
    (hprune : ((m.retaining most hours).prune now).1 = .ok n) :
    ((m.retaining more hours).prune now).1 =
        .ok ((m.retaining more hours).pruned now).length.toUInt64 ∧
      (more.toNat < Tables.signedBound →
        (m.retaining more hours).pruned now ⊆ (m.retaining most hours).pruned now ∧
          (hours = none → m.tables.messages.length ≤ more.toNat →
            (m.retaining more hours).pruned now = [])) ∧
      (Tables.signedBound ≤ more.toNat →
        (m.retaining more hours).pruned now = m.tables.messages) := by
  have hne : most ≠ 0 := (UInt64.ne_of_lt hmost).symm
  have hne' : more ≠ 0 := (UInt64.ne_of_lt (UInt64.lt_of_lt_of_le hmost hmore)).symm
  obtain ⟨hopen, expired, hexpired⟩ := expired_of_prune hne hprune
  have hexpired' : (m.retaining more hours).expired? now = .ok expired := hexpired
  obtain ⟨-, hfewer⟩ := prune_of_expired hopen hne hexpired
  obtain ⟨hcount, hpruned⟩ := prune_of_expired hopen hne' hexpired'
  refine ⟨hcount, fun hlt => ⟨?_, ?_⟩, fun hge => ?_⟩
  · rw [Tables.page_after _ (Nat.lt_of_le_of_lt hmore hlt)] at hfewer
    rw [hpruned, Tables.page_after _ hlt, hfewer]
    refine Tables.rowsOf_subset (List.append_subset.mpr ⟨?_, by simp⟩)
    exact List.subset_append_of_subset_left _
      (List.map_subset _ (List.drop_subset_drop_left _ hmore))
  · rintro rfl hlength
    cases hexpired
    have hnone : m.tables.newestFirst.drop more.toNat = [] := by
      rw [List.drop_eq_nil_iff, m.tables.newestFirst_perm.length_eq]
      exact hlength
    rw [hpruned, Tables.page_after _ hlt, hnone]
    exact Tables.rowsOf_nil _
  · rw [hpruned, Tables.page_from_start _ hge]
    exact Tables.rowsOf_newestFirst m.tables expired

theorem prune_retaining_two :
    let m := Mailbox.holding [.bare "a" 2 (.json (.object [])), .bare "b" 1 (.json (.object []))]
    ((m.retaining 1 none).prune ⟨1, 0⟩).1 = .ok 1 ∧ (m.retaining 2 none).pruned ⟨1, 0⟩ = [] := by
  intro m
  have hexpired : (m.retaining 1 none).expired? ⟨1, 0⟩ = .ok [] := rfl
  have hprune : ((m.retaining 1 none).prune ⟨1, 0⟩).1 = .ok 1 := by
    obtain ⟨hcount, hpruned⟩ := prune_of_expired rfl (by decide) hexpired
    rw [hcount, hpruned, Tables.newestFirst_of_pairwise (by decide)]
    decide +kernel
  obtain ⟨-, hkept, -⟩ := prune_retaining 1 2 (by decide) (by decide) hprune
  exact ⟨hprune, (hkept (by decide)).2 rfl (by decide)⟩

theorem prune_retaining_signed :
    let m := Mailbox.holding [.bare "a" 0 (.json (.object []))]
    ((m.retaining 9223372036854775807 none).prune ⟨1, 0⟩).1 = .ok 0 ∧
      (m.retaining 9223372036854775807 none).pruned ⟨1, 0⟩ = [] ∧
      ((m.retaining 9223372036854775808 none).prune ⟨1, 0⟩).1 = .ok 1 ∧
      (m.retaining 9223372036854775808 none).pruned ⟨1, 0⟩ = m.tables.messages := by
  intro m
  have hexpired (most : UInt64) : (m.retaining most none).expired? ⟨1, 0⟩ = .ok [] := rfl
  obtain ⟨hfew, hkept⟩ := prune_of_expired rfl (by decide) (hexpired 9223372036854775807)
  obtain ⟨hmany, hlost⟩ := prune_of_expired rfl (by decide) (hexpired 9223372036854775808)
  rw [Tables.page_after _ (by decide), Tables.newestFirst_of_pairwise (by decide)] at hkept
  rw [Tables.page_from_start _ (by decide), Tables.rowsOf_newestFirst] at hlost
  have hnone : (m.retaining 9223372036854775807 none).pruned ⟨1, 0⟩ = [] := hkept
  exact ⟨by rw [hfew, hnone]; rfl, hnone, by rw [hmany, hlost]; rfl, hlost⟩

theorem signedHours_of_lt {hours : UInt64} (h : hours.toNat < Tables.signedBound) :
    signedHours hours = hours.toNat := by
  have hbits : signedHours hours = hours.toBitVec.toInt := rfl
  rw [hbits, BitVec.toInt_eq_toNat_cond, if_pos]
  · rfl
  · rw [Tables.signedBound] at h
    change 2 * hours.toNat < _
    omega

theorem signedHours_of_ge {hours : UInt64} (h : Tables.signedBound ≤ hours.toNat) :
    signedHours hours = hours.toNat - 2 ^ 64 := by
  have hbits : signedHours hours = hours.toBitVec.toInt := rfl
  rw [hbits, BitVec.toInt_eq_toNat_cond, if_neg]
  · rfl
  · rw [Tables.signedBound] at h
    change ¬ 2 * hours.toNat < _
    omega

theorem cutoff?_of_dated {now : Instant} (hnow : now.isDated = true) {hours : Int}
    (hfirst : Instant.firstSecond ≤ now.seconds - hours * 3600)
    (hlast : now.seconds - hours * 3600 ≤ Instant.lastSecond) :
    cutoff? now hours = .ok { now with seconds := now.seconds - hours * 3600 } := by
  have hdated := Instant.bounds_of_isDated hnow
  have hspan : hours.natAbs ≤ hoursLimit := by
    rw [Instant.firstSecond_eq] at hdated hfirst
    rw [Instant.lastSecond_eq] at hdated hlast
    rw [hoursLimit]
    omega
  rw [cutoff?, if_neg]
  simp only [Bool.or_eq_true, decide_eq_true_eq, not_or, Int.not_lt, Nat.not_lt]
  exact ⟨⟨hspan, hfirst⟩, hlast⟩

theorem cutoff?_of_undated {now : Instant} {hours : Int}
    (h : now.seconds - hours * 3600 < Instant.firstSecond ∨
      Instant.lastSecond < now.seconds - hours * 3600) :
    cutoff? now hours = .error .ageOutOfRange := by
  rw [cutoff?, if_pos]
  simp only [Bool.or_eq_true, decide_eq_true_eq]
  tauto

theorem expired?_of_dated (hopen : m.closed = false) {now : Instant} (hnow : now.isDated = true)
    {most hours : UInt64} (hfirst : Instant.firstSecond ≤ now.seconds - signedHours hours * 3600)
    (hlast : now.seconds - signedHours hours * 3600 ≤ Instant.lastSecond) :
    (m.retaining most (some hours)).expired? now = .ok ((m.tables.messages.filter fun r =>
      decide (r.created < now.millis - signedHours hours * 3600000)).map Row.id) := by
  have hopen' : (m.retaining most (some hours)).closed = false := hopen
  have hage : (m.retaining most (some hours)).config.retention.maxAgeHours = some hours := rfl
  have hmillis : ({ now with seconds := now.seconds - signedHours hours * 3600 } : Instant).millis =
      now.millis - signedHours hours * 3600000 := by
    simp only [Instant.millis]
    omega
  simp only [expired?, hage, cutoff?_of_dated hnow hfirst hlast, Except.bind, ask_of_open hopen',
    hmillis]
  rfl

def PrunesBefore (m : Mailbox) (now : Instant) (ms : Int) : Prop :=
  (m.prune now).1 = .ok (m.pruned now).length.toUInt64 ∧
    m.pruned now = m.tables.messages.filter fun r => decide (r.created < ms)

theorem prunesBefore_of_dated (hopen : m.closed = false)
    (hids : (m.tables.messages.map Row.id).Nodup) {now : Instant} (hnow : now.isDated = true)
    (hours : UInt64) (hfirst : Instant.firstSecond ≤ now.seconds - signedHours hours * 3600)
    (hlast : now.seconds - signedHours hours * 3600 ≤ Instant.lastSecond) :
    (m.retaining 0 (some hours)).PrunesBefore now (now.millis - signedHours hours * 3600000) := by
  have hexcess : (m.retaining 0 (some hours)).excess? = .ok [] := rfl
  obtain ⟨hcount, hpruned⟩ := prune_of_outdated (m := m.retaining 0 (some hours)) hopen
    (outdated?_eq hexcess (expired?_of_dated hopen hnow hfirst hlast))
  rw [List.nil_append] at hpruned
  exact ⟨hcount, hpruned.trans (Tables.rowsOf_map_filter hids _)⟩

theorem prune_of_undated (m : Mailbox) (now : Instant) (hours : UInt64)
    (h : now.seconds - signedHours hours * 3600 < Instant.firstSecond ∨
      Instant.lastSecond < now.seconds - signedHours hours * 3600) :
    (m.retaining 0 (some hours)).prune now =
      (.error .ageOutOfRange, m.retaining 0 (some hours)) := by
  have hexcess : (m.retaining 0 (some hours)).excess? = .ok [] := rfl
  have hage : (m.retaining 0 (some hours)).config.retention.maxAgeHours = some hours := rfl
  have hexpired : (m.retaining 0 (some hours)).expired? now = .error .ageOutOfRange := by
    simp only [expired?, hage, cutoff?_of_undated h, Except.bind]
  have houtdated : (m.retaining 0 (some hours)).outdated? now = .error .ageOutOfRange := by
    rw [outdated?, hexcess, hexpired]
    rfl
  simp only [prune, houtdated]

theorem prune_by_age (hopen : m.closed = false) (hids : (m.tables.messages.map Row.id).Nodup)
    (now : Instant) (hnow : now.isDated = true) (hours : UInt64) :
    (hours.toNat < Tables.signedBound →
      (Instant.firstSecond ≤ now.seconds - hours.toNat * 3600 →
        (m.retaining 0 (some hours)).PrunesBefore now (now.millis - hours.toNat * 3600000)) ∧
      (now.seconds - hours.toNat * 3600 < Instant.firstSecond →
        ((m.retaining 0 (some hours)).prune now).1 = .error .ageOutOfRange)) ∧
    (Tables.signedBound ≤ hours.toNat →
      (now.seconds + (2 ^ 64 - hours.toNat) * 3600 ≤ Instant.lastSecond →
        (m.retaining 0 (some hours)).PrunesBefore now
          (now.millis + (2 ^ 64 - hours.toNat) * 3600000)) ∧
      (Instant.lastSecond < now.seconds + (2 ^ 64 - hours.toNat) * 3600 →
        ((m.retaining 0 (some hours)).prune now).1 = .error .ageOutOfRange)) := by
  have hdated := Instant.bounds_of_isDated hnow
  constructor
  · intro hlt
    have hpast := prunesBefore_of_dated hopen hids hnow hours
    have hnone := prune_of_undated m now hours
    rw [signedHours_of_lt hlt] at hpast hnone
    refine ⟨fun hfirst => hpast hfirst (by omega), fun hfirst => ?_⟩
    rw [hnone (Or.inl hfirst)]
  · intro hge
    have hahead (unit : Int) (a : Int) :
        a - signedHours hours * unit = a + (2 ^ 64 - hours.toNat) * unit := by
      rw [signedHours_of_ge hge, Int.sub_eq_add_neg, ← Int.neg_mul, Int.neg_sub]
    have hpast := prunesBefore_of_dated hopen hids hnow hours
    have hnone := prune_of_undated m now hours
    simp only [hahead] at hpast hnone
    have hbound : hours.toNat < 2 ^ 64 := hours.toNat_lt
    refine ⟨fun hlast => hpast (by omega) hlast, fun hlast => ?_⟩
    rw [hnone (Or.inr hlast)]

theorem prune_by_age_hour :
    let m := Mailbox.holding
      [.bare "a" 0 (.json (.object [])), .bare "b" 7199000 (.json (.object []))]
    (m.retaining 0 (some 1)).PrunesBefore ⟨7200, 0⟩ 3600000 ∧
      ((m.retaining 0 (some 1)).pruned ⟨7200, 0⟩).map Row.id = ["a"] := by
  intro m
  obtain ⟨hpast, -⟩ := prune_by_age (m := m) rfl (by decide) ⟨7200, 0⟩ (by decide) 1
  have hago : (⟨7200, 0⟩ : Instant).millis - (1 : UInt64).toNat * 3600000 = 3600000 := by decide
  rw [← hago]
  have hbefore := (hpast (by decide)).1 (by decide)
  exact ⟨hbefore, by rw [hbefore.2, hago]; rfl⟩

theorem prune_by_age_signed :
    let m := Mailbox.holding [.bare "a" 7200000 (.json (.object []))]
    (m.retaining 0 (some 18446744073709551615)).pruned ⟨7200, 0⟩ = m.tables.messages ∧
      ((m.retaining 0 (some 3000000000)).prune ⟨7200, 0⟩).1 = .error .ageOutOfRange := by
  intro m
  have hdated : (⟨7200, 0⟩ : Instant).isDated = true := by decide
  obtain ⟨-, hpruned⟩ := prunesBefore_of_dated (m := m) rfl (by decide) hdated
    18446744073709551615 (by decide) (by decide)
  refine ⟨hpruned.trans rfl, ?_⟩
  rw [prune_of_undated m ⟨7200, 0⟩ 3000000000 (by decide)]

end Mailbox

end Letterbox
