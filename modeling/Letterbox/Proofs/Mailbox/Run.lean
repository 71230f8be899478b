import Letterbox.Proofs.Mailbox.Change
import Letterbox.Proofs.Mailbox.Outcome

namespace Letterbox

theorem Tables.stats_fillPreviews (t : Tables) : t.fillPreviews.stats = t.stats := by
  have hread (r : Row) : (if r.snippet.isNone then { r with snippet := some (t.previewOf r.id) }
      else r).read = r.read := by
    split <;> rfl
  simp only [stats, fillPreviews, List.length_map, List.filter_map, Function.comp_def, hread]
  rfl

namespace Mailbox

def Informs (m m' : Mailbox) : Prop :=
  (m'.notices = m.notices ∧ m'.tables.stats = m.tables.stats) ∨
    ∃ told, m'.notices = m.notices ++ told ++ [.event (.stats m'.tables.stats)]

structure LeadsTo (m m' : Mailbox) : Prop where
  changes : m.tables.Changes m'.tables
  informs : m.Informs m'
  closed : m'.closed = m.closed

namespace LeadsTo

variable {m m' m'' : Mailbox}

theorem trans (h : m.LeadsTo m') (h' : m'.LeadsTo m'') : m.LeadsTo m'' where
  changes := h.changes.trans h'.changes
  closed := h'.closed.trans h.closed
  informs := by
    rcases h'.informs with ⟨hnotices', hstats'⟩ | ⟨told', hnotices'⟩
    · rcases h.informs with ⟨hnotices, hstats⟩ | ⟨told, hnotices⟩
      · exact Or.inl ⟨hnotices'.trans hnotices, hstats'.trans hstats⟩
      · exact Or.inr ⟨told, by rw [hnotices', hnotices, hstats']⟩
    · rcases h.informs with ⟨hnotices, -⟩ | ⟨told, hnotices⟩
      · exact Or.inr ⟨told', by rw [hnotices', hnotices]⟩
      · exact Or.inr ⟨told ++ [.event (.stats m'.tables.stats)] ++ told', by
          rw [hnotices', hnotices]
          simp only [List.append_assoc]⟩

theorem quietly (htables : m'.tables = m.tables) (hnotices : m'.notices = m.notices)
    (hclosed : m'.closed = m.closed) : m.LeadsTo m' where
  changes := htables ▸ .refl
  informs := Or.inl ⟨hnotices, congrArg Tables.stats htables⟩
  closed := hclosed

theorem refl (m : Mailbox) : m.LeadsTo m :=
  quietly rfl rfl rfl

theorem touched (m : Mailbox) (now : Instant) : m.LeadsTo (m.touch now) :=
  quietly rfl rfl rfl

theorem unseen (hchange : m.tables.Change m'.tables) (hstats : m'.tables.stats = m.tables.stats)
    (hnotices : m'.notices = m.notices) (hclosed : m'.closed = m.closed) : m.LeadsTo m' where
  changes := .single hchange
  informs := Or.inl ⟨hnotices, hstats⟩
  closed := hclosed

theorem announced (hopen : m.closed = false) (hchange : m.tables.Change m'.tables)
    (hnotices : ∃ told, m'.notices = m.notices ++ told) (hclosed : m'.closed = m.closed)
    (now : Instant) : m.LeadsTo (m'.announceStats now) := by
  rw [announceStats_of_open (hclosed.trans hopen)]
  obtain ⟨told, hnotices⟩ := hnotices
  exact {
    changes := .single hchange
    informs := Or.inr ⟨told, by rw [notify_notices, touch_notices, hnotices]; rfl⟩
    closed := hclosed }

end LeadsTo

section Operations

variable {m : Mailbox} (hopen : m.closed = false)

include hopen

theorem leadsTo_store {now : Instant} (hnow : now.isDated = true) (id : String) (raw : Bytes) :
    m.LeadsTo (m.store now id raw).2 := by
  rcases store_cases hopen now id raw with
    ⟨why, -, heq⟩ | ⟨e, why, -, -, heq⟩ | ⟨e, known, t, hparse, hinsert, heq⟩
  · rw [heq]
    exact .quietly rfl rfl rfl
  · rw [heq]
    exact .touched m now
  · rw [heq]
    obtain ⟨hnew, htags⟩ := insertMessage_cases hinsert
    -- a date of the message itself is one of the calendar, as is the time of the request
    have hdated : (createdAt m.config.storage now e).isDated = true := by
      unfold createdAt
      split
      · cases hd : e.date with
        | none => exact hnow
        | some d => exact Envelope.isDated_of_parse hparse hd
      · exact hnow
    obtain ⟨m', hreceive, rfl, hclosed, hnotices⟩ := receive_eq (m.touch now) now
      (arrivalSummary id (createdAt m.config.storage now e) raw e known) t
    rw [hreceive]
    exact .announced hopen (.insert hnew hparse hdated htags) ⟨_, hnotices⟩ hclosed now

theorem leadsTo_putRead (now : Instant) (id : String) (read : Bool) :
    m.LeadsTo (m.putRead now id read) := by
  refine .announced hopen ?_ ?_ ?_ now
  · exact .setRead m.tables id read
  · exact ⟨[], by simp⟩
  · rfl

theorem leadsTo_message (now : Instant) (id : String) : m.LeadsTo (m.message now id).2 := by
  rcases message_cases hopen now id with ⟨why, -, heq⟩ | ⟨msg, r, -, -, heq⟩
  · rw [heq]
    exact .touched m now
  · rw [heq]
    split
    · exact .touched m now
    · exact (LeadsTo.touched m now).trans (leadsTo_putRead (m := m.touch now) hopen now id true)

theorem leadsTo_mark (now : Instant) (id : String) (read : Bool) :
    m.LeadsTo (m.mark now id read).2 := by
  rcases mark_cases hopen now id read with ⟨-, heq⟩ | ⟨r, -, heq⟩
  · rw [heq]
    exact .touched m now
  · rw [heq]
    split
    · exact .touched m now
    · exact (LeadsTo.touched m now).trans (leadsTo_putRead (m := m.touch now) hopen now id read)

theorem leadsTo_markAll (now : Instant) (read : Bool) : m.LeadsTo (m.markAll now read).2 := by
  rw [markAll_of_open hopen]
  split
  · refine .announced hopen ?_ ?_ ?_ now
    · exact .setAllRead m.tables read
    · exact ⟨[], by simp⟩
    · rfl
  · exact .touched m now

theorem leadsTo_setTags (now : Instant) (id : String) (names : List String) :
    m.LeadsTo (m.setTags now id names).2 := by
  rcases setTags_cases hopen now id names with
    ⟨-, heq⟩ | ⟨r, why, -, -, heq⟩ | ⟨r, known, t, hrow, htags, heq⟩
  · rw [heq]
    exact .touched m now
  · rw [heq]
    exact .touched m now
  · rw [heq]
    refine .announced hopen ?_ ?_ ?_ now
    · exact .replaceTags hrow htags
    · exact ⟨[], by simp⟩
    · rfl

theorem leadsTo_clearTags (now : Instant) (id : String) : m.LeadsTo (m.clearTags now id).2 := by
  rw [clearTags_of_open hopen]
  exact .unseen (.untag m.tables id) rfl rfl rfl

theorem leadsTo_pruneTags (now : Instant) : m.LeadsTo (m.pruneTags now).2 := by
  rw [pruneTags_of_open hopen]
  split
  · refine .announced hopen ?_ ?_ ?_ now
    · exact .pruneTags m.tables
    · exact ⟨[], by simp⟩
    · rfl
  · exact .touched m now

theorem leadsTo_deleteOne (now : Instant) (id : String) : m.LeadsTo (m.deleteOne now id).2 := by
  rcases deleteOne_cases hopen now id with ⟨-, heq⟩ | ⟨r, -, heq⟩
  · rw [heq]
    exact .touched m now
  · rw [heq]
    refine .announced hopen ?_ ?_ ?_ now
    · exact .remove m.tables [id]
    · exact ⟨[], by simp [recordRemoval]⟩
    · rfl

theorem leadsTo_deleteMany (now : Instant) (ids : List String) :
    m.LeadsTo (m.deleteMany now ids).2 := by
  rw [deleteMany_of_open hopen]
  split
  · rename_i hnone
    exact .unseen (.remove m.tables ids) (Tables.stats_remove_of_rowsOf hnone) rfl rfl
  · refine .announced hopen ?_ ?_ ?_ now
    · exact .remove m.tables ids
    · exact ⟨[_], rfl⟩
    · rfl

theorem leadsTo_deleteMatching (now : Instant) (query : String) :
    m.LeadsTo (m.deleteMatching now query).2 := by
  rcases deleteMatching_cases hopen now query with ⟨why, -, heq⟩ | ⟨rows, -, heq⟩
  · rw [heq]
    exact .touched m now
  · rw [heq]
    exact (LeadsTo.touched m now).trans (leadsTo_deleteMany (m := m.touch now) hopen now _)

theorem leadsTo_deleteAll (now : Instant) : m.LeadsTo (m.deleteAll now).2 := by
  rw [deleteAll_of_open hopen]
  refine .announced hopen ?_ ?_ ?_ now
  · exact .clear m.tables
  · exact ⟨[_], rfl⟩
  · rfl

theorem leadsTo_prune (now : Instant) : m.LeadsTo (m.prune now).2 := by
  rcases prune_cases m now with ⟨why, -, heq⟩ | ⟨ids, -, heq⟩
  · rw [heq]
    exact .refl m
  · rw [heq]
    exact leadsTo_deleteMany hopen now ids

theorem leadsTo_backfill : m.LeadsTo m.backfill.2 := by
  rw [backfill_of_open hopen]
  exact .unseen (.fillPreviews m.tables) (Tables.stats_fillPreviews m.tables) rfl rfl

omit hopen in
theorem leadsTo_settle (m : Mailbox) (now : Instant) : m.LeadsTo (m.settle now) := by
  unfold settle
  split
  · exact .refl m
  · dsimp only
    split <;> exact .quietly rfl rfl rfl

theorem leadsTo_maintain (now : Instant) : m.LeadsTo (m.maintain now) := by
  have hprune := leadsTo_prune hopen now
  unfold maintain
  split
  · rename_i heq
    rw [heq] at hprune
    exact hprune
  · rename_i heq
    rw [heq] at hprune
    exact hprune.trans (leadsTo_settle _ now)

theorem leadsTo_startBackground (now : Instant) : m.LeadsTo (m.startBackground now).2 := by
  rcases startBackground_cases hopen now with ⟨-, heq⟩ | ⟨-, heq⟩
  · rw [heq]
    exact .refl m
  · rw [heq]
    have hstarted : m.LeadsTo { m with started := true } := .quietly rfl rfl rfl
    have hmaintain := leadsTo_maintain (m := { m with started := true }) hopen now
    exact (hstarted.trans hmaintain).trans (leadsTo_backfill (hmaintain.closed.trans hopen))

theorem leadsTo_perform {α : Type} {now : Instant} (hnow : now.isDated = true)
    (operation : Operation α) : m.LeadsTo (operation.perform m now).2 := by
  cases operation with
  | look l =>
    rw [Operation.perform]
    rcases look_snd m now l with heq | heq <;> rw [heq]
    · exact .refl m
    · exact .touched m now
  | store id raw => exact leadsTo_store hopen hnow id raw
  | message id => exact leadsTo_message hopen now id
  | mark id read => exact leadsTo_mark hopen now id read
  | markAll read => exact leadsTo_markAll hopen now read
  | setTags id names => exact leadsTo_setTags hopen now id names
  | clearTags id => exact leadsTo_clearTags hopen now id
  | pruneTags => exact leadsTo_pruneTags hopen now
  | deleteOne id => exact leadsTo_deleteOne hopen now id
  | deleteMany ids => exact leadsTo_deleteMany hopen now ids
  | deleteMatching query => exact leadsTo_deleteMatching hopen now query
  | deleteAll => exact leadsTo_deleteAll hopen now
  | prune => exact leadsTo_prune hopen now
  | backfill => exact leadsTo_backfill hopen
  | migrate => exact .refl m
  | vacuum => exact .refl m
  | maintain => exact leadsTo_maintain hopen now
  | startBackground => exact leadsTo_startBackground hopen now

theorem leadsTo_run (requests : List Request) : m.LeadsTo (m.run requests) := by
  induction requests generalizing m with
  | nil => exact .refl m
  | cons r requests ih =>
    have hfirst := leadsTo_perform hopen r.isDated r.operation
    exact hfirst.trans (ih (hfirst.closed.trans hopen))

end Operations

theorem open?_cases {config : Config} {t : Tables} {webhook : Bool} {start : Instant}
    {m : Mailbox} (h : open? config t webhook start = .ok m) :
    m.tables = t ∧ m.closed = false ∧ m.notices = [] := by
  unfold open? at h
  split at h
  · cases h
  · cases h
    exact ⟨rfl, rfl, rfl⟩

theorem closed_run {config : Config} {t : Tables} {webhook : Bool} {start : Instant} {m : Mailbox}
    (h : open? config t webhook start = .ok m) (requests : List Request) :
    (m.run requests).closed = false := by
  obtain ⟨-, hclosed, -⟩ := open?_cases h
  exact (leadsTo_run hclosed requests).closed.trans hclosed

end Mailbox

/-- The tables that mailboxes leave behind when each is opened where the one before ended, and the
first with nothing. -/
inductive Tables.Reached : Tables → Prop
  | empty : Reached {}
  | session {t : Tables} {config : Config} {webhook : Bool} {start : Instant} {m : Mailbox}
      (ht : Reached t) (hopen : Mailbox.open? config t webhook start = .ok m)
      (requests : List Request) : Reached (m.run requests).tables

theorem Tables.Reached.sound {t : Tables} (ht : t.Reached) : t.Sound := by
  induction ht with
  | empty => exact sound_empty
  | @session t config webhook start m _ hopen requests ih =>
    obtain ⟨rfl, hclosed, -⟩ := Mailbox.open?_cases hopen
    exact (Mailbox.leadsTo_run hclosed requests).changes.sound ih

end Letterbox
