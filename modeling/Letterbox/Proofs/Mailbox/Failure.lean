import Letterbox.Proofs.Mailbox.Constants
import Letterbox.Proofs.Mailbox.Outcome

namespace Letterbox.Mailbox

structure Unmoved (m m' : Mailbox) : Prop where
  tables : m'.tables = m.tables
  notices : m'.notices = m.notices
  stored : m'.metrics.stored = m.metrics.stored
  deleted : m'.metrics.deleted = m.metrics.deleted
  deletedBytes : m'.activity.deletedBytes = m.activity.deletedBytes

namespace Unmoved

variable {m m' m'' : Mailbox}

theorem refl (m : Mailbox) : m.Unmoved m :=
  ⟨rfl, rfl, rfl, rfl, rfl⟩

theorem touched (m : Mailbox) (now : Instant) : m.Unmoved (m.touch now) :=
  ⟨rfl, rfl, rfl, rfl, rfl⟩

theorem trans (h : m.Unmoved m') (h' : m'.Unmoved m'') : m.Unmoved m'' where
  tables := h'.tables.trans h.tables
  notices := h'.notices.trans h.notices
  stored := h'.stored.trans h.stored
  deleted := h'.deleted.trans h.deleted
  deletedBytes := h'.deletedBytes.trans h.deletedBytes

end Unmoved

theorem unmoved_look (m : Mailbox) (now : Instant) {α : Type} (l : Look α) :
    m.Unmoved (l.perform m now).2 := by
  rcases look_snd m now l with heq | heq <;> rw [heq]
  · exact .refl m
  · exact .touched m now

theorem unmoved_refused (m : Mailbox) (now : Instant) :
    m.Unmoved { m.touch now with metrics := m.metrics.countMalformed } :=
  ⟨rfl, rfl, rfl, rfl, rfl⟩

section Closed

variable {m : Mailbox} (hclosed : m.closed = true)

include hclosed

theorem ask_of_closed {α : Type} (f : Tables → Except MailError α) : m.ask f = .error .closed := by
  simp [ask, hclosed]

theorem ask_touch_of_closed {α : Type} (now : Instant) (f : Tables → Except MailError α) :
    (m.touch now).ask f = .error .closed :=
  ask_of_closed (m := m.touch now) hclosed f

theorem unmoved_store_of_closed (now : Instant) (id : String) (raw : Bytes) :
    m.Unmoved (m.store now id raw).2 := by
  simp only [store, ask_touch_of_closed hclosed]
  split
  · exact unmoved_refused m now
  · exact .touched m now

theorem unmoved_deleteMany_of_closed (now : Instant) (ids : List String) :
    m.Unmoved (m.deleteMany now ids).2 := by
  simp only [deleteMany, hclosed, if_true]
  split <;> exact .refl m

theorem unmoved_deleteMatching_of_closed (now : Instant) (query : String) :
    m.Unmoved (m.deleteMatching now query).2 := by
  simp only [deleteMatching, ask_touch_of_closed hclosed]
  exact .touched m now

theorem unmoved_prune_of_closed (now : Instant) : m.Unmoved (m.prune now).2 := by
  rcases prune_cases m now with ⟨why, -, heq⟩ | ⟨ids, -, heq⟩ <;> rw [heq]
  · exact .refl m
  · exact unmoved_deleteMany_of_closed hclosed now ids

theorem unmoved_settle_of_closed (now : Instant) : m.Unmoved (m.settle now) := by
  simp only [settle, hclosed, Bool.or_true, if_true]
  split
  · exact .refl m
  · exact ⟨rfl, rfl, rfl, rfl, rfl⟩

theorem unmoved_maintain_of_closed (now : Instant) : m.Unmoved (m.maintain now) := by
  have hprune := unmoved_prune_of_closed hclosed now
  have hstill : (m.prune now).2.closed = m.closed := congrArg Constants.closed constants_prune
  unfold maintain
  split
  · rename_i heq
    rw [heq] at hprune
    exact hprune
  · rename_i heq
    rw [heq] at hprune hstill
    exact hprune.trans (unmoved_settle_of_closed (hstill.trans hclosed) now)

theorem unmoved_startBackground_of_closed (now : Instant) :
    m.Unmoved (m.startBackground now).2 := by
  simp only [startBackground, hclosed, if_true]
  split
  · exact .refl m
  · exact ⟨rfl, rfl, rfl, rfl, rfl⟩

theorem unmoved_of_closed (now : Instant) {α : Type} (operation : Operation α) :
    m.Unmoved (operation.perform m now).2 := by
  cases operation with
  | look l => exact unmoved_look m now l
  | store id raw => exact unmoved_store_of_closed hclosed now id raw
  | message id =>
    simp only [Operation.perform, message, ask_touch_of_closed hclosed]
    exact .touched m now
  | mark id read =>
    simp only [Operation.perform, mark, ask_touch_of_closed hclosed]
    exact .touched m now
  | markAll read =>
    simp only [Operation.perform, markAll, ask_touch_of_closed hclosed]
    exact .touched m now
  | setTags id names =>
    simp only [Operation.perform, setTags, ask_touch_of_closed hclosed]
    exact .touched m now
  | clearTags id =>
    simp only [Operation.perform, clearTags, ask_touch_of_closed hclosed]
    exact .touched m now
  | pruneTags =>
    simp only [Operation.perform, pruneTags, ask_touch_of_closed hclosed]
    exact .touched m now
  | deleteOne id =>
    simp only [Operation.perform, deleteOne, ask_touch_of_closed hclosed]
    exact .touched m now
  | deleteMany ids => exact unmoved_deleteMany_of_closed hclosed now ids
  | deleteMatching query => exact unmoved_deleteMatching_of_closed hclosed now query
  | deleteAll =>
    simp only [Operation.perform, deleteAll, touch_closed, hclosed, if_true]
    exact .touched m now
  | prune => exact unmoved_prune_of_closed hclosed now
  | backfill =>
    simp only [Operation.perform, backfill, ask_of_closed hclosed]
    exact .refl m
  | migrate => exact .refl m
  | vacuum => exact .refl m
  | maintain => exact unmoved_maintain_of_closed hclosed now
  | startBackground => exact unmoved_startBackground_of_closed hclosed now

end Closed

section Open

variable {m : Mailbox} (hopen : m.closed = false)

include hopen

theorem deleteMany_ne_error (now : Instant) (ids : List String) (why : MailError) :
    (m.deleteMany now ids).1 ≠ .error why := by
  rw [deleteMany_of_open hopen]
  simp

theorem unmoved_of_error (now : Instant) {α : Type} (operation : Operation α) {why : MailError}
    (h : (operation.perform m now).1 = .error why) : m.Unmoved (operation.perform m now).2 := by
  cases operation with
  | look l => exact unmoved_look m now l
  | store id raw =>
    rw [Operation.perform] at h ⊢
    rcases store_eq m now id raw with ⟨_, heq⟩ | ⟨_, -, heq⟩ | ⟨s, t, heq⟩ <;> rw [heq] at h ⊢
    · exact unmoved_refused m now
    · exact .touched m now
    · cases h
  | message id =>
    rw [Operation.perform] at h ⊢
    rcases message_cases hopen now id with ⟨_, -, heq⟩ | ⟨_, _, -, -, heq⟩ <;> rw [heq] at h ⊢
    · exact .touched m now
    · cases h
  | mark id read =>
    rw [Operation.perform] at h ⊢
    rcases mark_cases hopen now id read with ⟨-, heq⟩ | ⟨r, -, heq⟩ <;> rw [heq] at h ⊢
    · exact .touched m now
    · split at h <;> cases h
  | markAll read =>
    rw [Operation.perform, markAll_of_open hopen] at h
    cases h
  | setTags id names =>
    rw [Operation.perform] at h ⊢
    rcases setTags_cases hopen now id names with
      ⟨-, heq⟩ | ⟨_, _, -, -, heq⟩ | ⟨_, _, _, -, -, heq⟩ <;> rw [heq] at h ⊢
    · exact .touched m now
    · exact .touched m now
    · cases h
  | clearTags id =>
    rw [Operation.perform, clearTags_of_open hopen] at h
    cases h
  | pruneTags =>
    rw [Operation.perform, pruneTags_of_open hopen] at h
    cases h
  | deleteOne id =>
    rw [Operation.perform] at h ⊢
    rcases deleteOne_cases hopen now id with ⟨-, heq⟩ | ⟨r, -, heq⟩ <;> rw [heq] at h ⊢
    · exact .touched m now
    · cases h
  | deleteMany ids => exact absurd h (deleteMany_ne_error hopen now ids why)
  | deleteMatching query =>
    rw [Operation.perform] at h ⊢
    rcases deleteMatching_cases hopen now query with ⟨_, -, heq⟩ | ⟨_, -, heq⟩ <;> rw [heq] at h ⊢
    · exact .touched m now
    · exact absurd h (deleteMany_ne_error (m := m.touch now) hopen now _ why)
  | deleteAll =>
    rw [Operation.perform, deleteAll_of_open hopen] at h
    cases h
  | prune =>
    rw [Operation.perform] at h ⊢
    rcases prune_cases m now with ⟨_, -, heq⟩ | ⟨_, -, heq⟩ <;> rw [heq] at h ⊢
    · exact .refl m
    · exact absurd h (deleteMany_ne_error hopen now _ why)
  | backfill =>
    rw [Operation.perform, backfill_of_open hopen] at h
    cases h
  | migrate => exact .refl m
  | vacuum => exact .refl m
  | maintain => cases h
  | startBackground => cases h

end Open

theorem failure_keeps (m : Mailbox) (now : Instant) {α : Type} (operation : Operation α) :
    (∀ why, (operation.perform m now).1 = .error why → m.Unmoved (operation.perform m now).2) ∧
      (operation.perform m now).2.metrics.malformed =
        m.metrics.malformed + if operation.isRefused m now then 1 else 0 := by
  constructor
  · intro why hwhy
    cases hclosed : m.closed with
    | true => exact unmoved_of_closed hclosed now operation
    | false => exact unmoved_of_error hclosed now operation hwhy
  · exact congrArg Constants.refused (constants_perform operation)

theorem failure_keeps_damaged :
    let m : Mailbox :=
      { config := {}, rules := ⟨[]⟩
        tables := {
          messages := [{
            id := "a", messageId := "", created := 0, subject := "", metadata := .broken "no JSON"
            size := 6, inlineCount := 0, attachmentCount := 0, searchText := "", snippet := none
            read := false }]
          payloads := [("a", [1, 2, 3])] } }
    ((Operation.message "a").perform m ⟨1, 0⟩).1 = .error .unreadablePayload ∧
      m.Unmoved ((Operation.message "a").perform m ⟨1, 0⟩).2 :=
  ⟨rfl, (failure_keeps _ ⟨1, 0⟩ (.message "a")).1 .unreadablePayload rfl⟩

end Letterbox.Mailbox
