import Letterbox.Proofs.Mailbox.Constants
import Letterbox.Proofs.Mailbox.Retention

namespace Letterbox.Mailbox

variable {m : Mailbox}

@[simp] theorem activity_notify (m : Mailbox) (n : Notice) : (m.notify n).activity = m.activity :=
  rfl

@[simp] theorem activity_announceStats (m : Mailbox) (now : Instant) :
    (m.announceStats now).activity = m.activity.touch (clock now) := by
  simp only [announceStats]
  split <;> rfl

@[simp] theorem activity_announcePrune (m : Mailbox) (now : Instant) (count : UInt64) :
    (m.announcePrune now count).activity = m.activity.touch (clock now) := by
  rw [announcePrune, activity_announceStats, activity_notify]

theorem activity_deleteMany (hopen : m.closed = false) (now : Instant) (ids : List String) :
    (m.deleteMany now ids).2.activity = if m.tables.rowsOf ids = [] then m.activity
      else (m.activity.addDeleted (Tables.bytesOf (m.tables.rowsOf ids))).touch (clock now) := by
  rw [deleteMany_of_open hopen]
  split
  · rfl
  · rw [activity_announcePrune]
    rfl

theorem deleteMany_of_closed (hclosed : m.closed = true) (now : Instant) (ids : List String) :
    (m.deleteMany now ids).2 = m := by
  simp only [deleteMany, hclosed, if_true]
  split <;> rfl

theorem pruned_of_prune_eq {now : Instant} (h : (m.prune now).2 = m) : m.pruned now = [] := by
  rw [pruned, h, Tables.lost_self]

theorem prune_changes (m : Mailbox) (now : Instant) :
    (m.prune now).2 = m ∨ m.closed = false ∧ ∃ ids, m.prune now = m.deleteMany now ids ∧
      m.pruned now = m.tables.rowsOf ids := by
  rcases prune_cases m now with ⟨why, -, heq⟩ | ⟨ids, hids, heq⟩
  · exact Or.inl (congrArg Prod.snd heq)
  · cases hclosed : m.closed with
    | true => exact Or.inl (heq ▸ deleteMany_of_closed hclosed now ids)
    | false => exact Or.inr ⟨rfl, ids, heq, (prune_of_outdated hclosed hids).2⟩

theorem settle_of_used {now : Instant} (hused : m.activity.lastAction = clock now)
    (hperiod : 0 < m.config.retention.idleAfterSeconds) : m.settle now = m := by
  have hjust : m.activity.idleFor (clock now) = 0 := by
    rw [Activity.idleFor, hused, Nat.sub_self]
  have hpositive : 0 < m.config.retention.idleAfterSeconds.toNat := hperiod
  rw [settle, if_pos]
  rw [hjust]
  omega

theorem activity_settle_congr {m' : Mailbox} (hactivity : m'.activity = m.activity)
    (hsettings : m'.constants = m.constants) (now : Instant) :
    (m'.settle now).activity = (m.settle now).activity := by
  have hconfig : m'.config = m.config := congrArg Constants.config hsettings
  have hclosed : m'.closed = m.closed := congrArg Constants.closed hsettings
  simp only [settle, hactivity, hconfig, hclosed]
  split
  · exact hactivity
  · split <;> rfl

theorem maintain_of_return {now : Instant} (h : (m.prune now).1 ≠ .error .ageOutOfRange) :
    m.maintain now = (m.prune now).2.settle now := by
  unfold maintain
  split
  · rename_i heq
    rw [heq] at h
    exact absurd rfl h
  · rename_i heq
    rw [heq]

theorem prune_activity (m : Mailbox) (now : Instant)
    (hprune : (m.prune now).1 ≠ .error .ageOutOfRange) :
    (m.pruned now = [] → (m.prune now).2.activity = m.activity ∧
      (m.maintain now).activity = (m.settle now).activity) ∧
    (m.pruned now ≠ [] →
      (m.prune now).2.activity =
        (m.activity.addDeleted (Tables.bytesOf (m.pruned now))).touch (clock now) ∧
      (0 < m.config.retention.idleAfterSeconds → m.maintain now = (m.prune now).2)) := by
  have hupkeep := maintain_of_return hprune
  have hsettings : (m.prune now).2.constants = m.constants := constants_prune
  have hconfig : (m.prune now).2.config = m.config := congrArg Constants.config hsettings
  rcases prune_changes m now with hsame | ⟨hopen, ids, heq, hpruned⟩
  · refine ⟨fun _ => ⟨by rw [hsame], by rw [hupkeep, hsame]⟩, fun hsome => ?_⟩
    exact absurd (pruned_of_prune_eq hsame) hsome
  · have hactivity := activity_deleteMany hopen now ids
    rw [← heq, ← hpruned] at hactivity
    constructor
    · intro hnone
      rw [if_pos hnone] at hactivity
      exact ⟨hactivity, hupkeep ▸ activity_settle_congr hactivity hsettings now⟩
    · intro hsome
      rw [if_neg hsome] at hactivity
      refine ⟨hactivity, fun hperiod => hupkeep.trans (settle_of_used ?_ ?_)⟩
      · rw [hactivity]
        rfl
      · rwa [hconfig]

def longIdle : Mailbox :=
  { (holding [.bare "a" 0 (.json (.object []))]).retaining 0 (some 1) with
    activity := { lastAction := 0, idle := true, deletedBytes := 1 } }

theorem prune_activity_longIdle :
    (longIdle.prune ⟨7200, 0⟩).1 ≠ .error .ageOutOfRange ∧ longIdle.pruned ⟨7200, 0⟩ ≠ [] ∧
      (longIdle.prune ⟨7200, 0⟩).2.activity = ((longIdle.activity.addDeleted
        (Tables.bytesOf (longIdle.pruned ⟨7200, 0⟩))).touch 7200000) ∧
      longIdle.maintain ⟨7200, 0⟩ = (longIdle.prune ⟨7200, 0⟩).2 := by
  have hprune : (longIdle.prune ⟨7200, 0⟩).1 = .ok 1 := by decide +kernel
  have hreturns : (longIdle.prune ⟨7200, 0⟩).1 ≠ .error .ageOutOfRange := by
    rw [hprune]
    simp
  have hsome : longIdle.pruned ⟨7200, 0⟩ ≠ [] := by
    have hlength : (longIdle.pruned ⟨7200, 0⟩).length = 1 := by decide +kernel
    exact List.ne_nil_of_length_eq_add_one hlength
  obtain ⟨hactivity, hupkeep⟩ := (prune_activity longIdle ⟨7200, 0⟩ hreturns).2 hsome
  exact ⟨hreturns, hsome, hactivity, hupkeep (by decide)⟩

theorem prune_activity_lost :
    (longIdle.prune ⟨7200, 0⟩).1 = .ok 1 ∧
      longIdle.activity.idle = true ∧ (longIdle.prune ⟨7200, 0⟩).2.activity.idle = false ∧
      (longIdle.prune ⟨7200, 0⟩).2.activity.lastAction ≠ longIdle.activity.lastAction ∧
      (longIdle.maintain ⟨7200, 0⟩).activity.deletedBytes = 7 ∧
      (longIdle.settle ⟨7200, 0⟩).activity.deletedBytes = 0 :=
  ⟨by decide +kernel, by decide +kernel, by decide +kernel, by decide +kernel, by decide +kernel, by decide +kernel⟩

end Letterbox.Mailbox
