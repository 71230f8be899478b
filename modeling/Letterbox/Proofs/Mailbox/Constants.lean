import Letterbox.Mailbox.Operation

namespace Letterbox

structure Constants where
  config : Config
  rules : TagRules
  webhook : Bool
  closed : Bool
  refused : UInt64

def Operation.isRefused {α : Type} (m : Mailbox) (now : Instant) : Operation α → Bool
  | .store id raw =>
    match (m.store now id raw).1 with
    | .error (.malformed _) => true
    | _ => false
  | _ => false

namespace Tables

theorem addTags_error {t : Tables} {id : String} {names : List String} {why : MailError}
    (h : t.addTags id names = .error why) : ∃ name, why = .tagTaken name := by
  induction names generalizing t with
  | nil => cases h
  | cons name names ih =>
    cases hg : t.ensureTag name with
    | error why' =>
      simp only [addTags, hg, bind, Except.bind, Except.error.injEq] at h
      subst h
      unfold ensureTag at hg
      split at hg
      · cases hg
      · split at hg
        · cases hg
          exact ⟨name, rfl⟩
        · cases hg
    | ok p =>
      cases hrest : (p.2.link id p.1.number).addTags id names with
      | error why' =>
        simp only [addTags, hg, hrest, bind, Except.bind, Except.error.injEq] at h
        exact ih (h ▸ hrest)
      | ok q => simp [addTags, hg, hrest, bind, Except.bind, pure, Except.pure] at h

end Tables

namespace Mailbox

def constants (m : Mailbox) : Constants :=
  { config := m.config
    rules := m.rules
    webhook := m.webhook
    closed := m.closed
    refused := m.metrics.malformed }

variable {m : Mailbox} {now : Instant}

@[simp] theorem constants_touch : (m.touch now).constants = m.constants :=
  rfl

@[simp] theorem constants_notify (n : Notice) : (m.notify n).constants = m.constants :=
  rfl

@[simp] theorem constants_tables (t : Tables) : { m with tables := t }.constants = m.constants :=
  rfl

@[simp] theorem constants_announceStats : (m.announceStats now).constants = m.constants := by
  simp only [announceStats]
  split <;> rfl

@[simp] theorem constants_announcePrune (count : UInt64) :
    (m.announcePrune now count).constants = m.constants := by
  simp only [announcePrune, constants_announceStats, constants_notify]

@[simp] theorem constants_putRead (id : String) (read : Bool) :
    (m.putRead now id read).constants = m.constants := by
  simp only [putRead, constants_announceStats, constants_tables]

theorem constants_receive (s : Summary) (t : Tables) :
    (m.receive now s t).constants = m.constants := by
  simp only [receive, constants_announceStats, constants_notify]
  split <;> rfl

theorem insertMessage_error {id : String} {created : Instant} {raw : Bytes} {e : Envelope}
    {why : MailError} (h : m.insertMessage id created raw e = .error why) (w : Malformed) :
    why ≠ .malformed w := by
  unfold insertMessage at h
  split at h
  · cases h
    simp
  · obtain ⟨name, rfl⟩ := Tables.addTags_error h
    simp

theorem store_eq (m : Mailbox) (now : Instant) (id : String) (raw : Bytes) :
    (∃ why, m.store now id raw =
      (.error (.malformed why), { m.touch now with metrics := m.metrics.countMalformed })) ∨
    (∃ why, (∀ w, why ≠ .malformed w) ∧ m.store now id raw = (.error why, m.touch now)) ∨
    ∃ s t, m.store now id raw = (.ok id, (m.touch now).receive now s t) := by
  unfold store
  dsimp only
  split
  · rename_i why _
    exact Or.inl ⟨why, rfl⟩
  · split
    · rename_i why hwhy
      refine Or.inr (Or.inl ⟨why, ?_, rfl⟩)
      intro w
      unfold ask at hwhy
      split at hwhy
      · cases hwhy
        simp
      · exact insertMessage_error hwhy w
    · exact Or.inr (Or.inr ⟨_, _, rfl⟩)

theorem constants_look {α : Type} (l : Look α) : (l.perform m now).2.constants = m.constants := by
  cases l <;> rfl

theorem constants_store (id : String) (raw : Bytes) : (m.store now id raw).2.constants =
    { m.constants with
      refused := m.constants.refused + if (Operation.store id raw).isRefused m now then 1 else 0 } := by
  rcases store_eq m now id raw with ⟨why, heq⟩ | ⟨why, hwhy, heq⟩ | ⟨s, t, heq⟩
  · simp only [Operation.isRefused, heq]
    rfl
  · have hnot : (Operation.store id raw).isRefused m now = false := by
      simp only [Operation.isRefused, heq]
      split
      · rename_i h
        cases h
        exact absurd rfl (hwhy _)
      · rfl
    simp [heq, hnot]
  · have hnot : (Operation.store id raw).isRefused m now = false := by
      simp only [Operation.isRefused, heq]
    simp [heq, hnot, constants_receive]

theorem constants_message (id : String) : (m.message now id).2.constants = m.constants := by
  simp only [message]
  split
  · rfl
  · split
    · rfl
    · rw [constants_putRead, constants_touch]

theorem constants_mark (id : String) (read : Bool) :
    (m.mark now id read).2.constants = m.constants := by
  simp only [mark]
  split
  · rfl
  · split
    · rfl
    · rw [constants_putRead, constants_touch]

theorem constants_markAll (read : Bool) : (m.markAll now read).2.constants = m.constants := by
  simp only [markAll]
  split
  · rfl
  · split
    · rw [constants_announceStats]; rfl
    · rfl

theorem constants_setTags (id : String) (names : List String) :
    (m.setTags now id names).2.constants = m.constants := by
  simp only [setTags]
  split
  · rfl
  · rw [constants_announceStats]; rfl

theorem constants_clearTags (id : String) :
    (m.clearTags now id).2.constants = m.constants := by
  simp only [clearTags]
  split <;> rfl

theorem constants_pruneTags : (m.pruneTags now).2.constants = m.constants := by
  simp only [pruneTags]
  split
  · rfl
  · split
    · rw [constants_announceStats]; rfl
    · rfl

theorem constants_deleteOne (id : String) : (m.deleteOne now id).2.constants = m.constants := by
  simp only [deleteOne]
  split
  · rfl
  · rw [constants_announceStats]; rfl

theorem constants_deleteMany (ids : List String) :
    (m.deleteMany now ids).2.constants = m.constants := by
  simp only [deleteMany]
  split
  · rfl
  · split
    · rfl
    · split
      · rw [constants_announcePrune]; rfl
      · rfl

theorem constants_deleteMatching (query : String) :
    (m.deleteMatching now query).2.constants = m.constants := by
  simp only [deleteMatching]
  split
  · rfl
  · rw [constants_deleteMany, constants_touch]

theorem constants_deleteAll : (m.deleteAll now).2.constants = m.constants := by
  simp only [deleteAll]
  split
  · rfl
  · rw [constants_announcePrune]; rfl

theorem constants_prune : (m.prune now).2.constants = m.constants := by
  simp only [prune]
  split
  · rfl
  · rw [constants_deleteMany]

theorem constants_backfill : m.backfill.2.constants = m.constants := by
  simp only [backfill]
  split <;> rfl

theorem constants_settle : (m.settle now).constants = m.constants := by
  simp only [settle]
  split
  · rfl
  · split <;> rfl

theorem constants_maintain : (m.maintain now).constants = m.constants := by
  have hprune : (m.prune now).2.constants = m.constants := constants_prune
  unfold maintain
  split
  · rename_i heq
    rw [heq] at hprune
    exact hprune
  · rename_i heq
    rw [heq] at hprune
    exact constants_settle.trans hprune

theorem constants_startBackground : (m.startBackground now).2.constants = m.constants := by
  simp only [startBackground]
  split
  · rfl
  · split
    · rfl
    · rw [constants_backfill, constants_maintain]
      rfl

theorem constants_perform {α : Type} (operation : Operation α) :
    (operation.perform m now).2.constants = { m.constants with
      refused := m.constants.refused + if operation.isRefused m now then 1 else 0 } := by
  have hsame {m' : Mailbox} (h : m'.constants = m.constants) : m'.constants =
      { m.constants with refused := m.constants.refused + 0 } := by
    rw [UInt64.add_zero, h]
  cases operation with
  | look l => exact hsame (constants_look l)
  | store id raw => exact constants_store id raw
  | message id => exact hsame (constants_message id)
  | mark id read => exact hsame (constants_mark id read)
  | markAll read => exact hsame (constants_markAll read)
  | setTags id names => exact hsame (constants_setTags id names)
  | clearTags id => exact hsame (constants_clearTags id)
  | pruneTags => exact hsame constants_pruneTags
  | deleteOne id => exact hsame (constants_deleteOne id)
  | deleteMany ids => exact hsame (constants_deleteMany ids)
  | deleteMatching query => exact hsame (constants_deleteMatching query)
  | deleteAll => exact hsame constants_deleteAll
  | prune => exact hsame constants_prune
  | backfill => exact hsame constants_backfill
  | migrate => exact hsame rfl
  | vacuum => exact hsame rfl
  | maintain => exact hsame constants_maintain
  | startBackground => exact hsame constants_startBackground

theorem config_perform {α : Type} (operation : Operation α) :
    (operation.perform m now).2.config = m.config :=
  congrArg Constants.config (constants_perform operation)

theorem webhook_perform {α : Type} (operation : Operation α) :
    (operation.perform m now).2.webhook = m.webhook :=
  congrArg Constants.webhook (constants_perform operation)

theorem closed_perform {α : Type} (operation : Operation α) :
    (operation.perform m now).2.closed = m.closed :=
  congrArg Constants.closed (constants_perform operation)

theorem config_run (requests : List Request) : (m.run requests).config = m.config := by
  induction requests generalizing m with
  | nil => rfl
  | cons r requests ih => exact ih.trans (config_perform r.operation)

end Mailbox

end Letterbox
