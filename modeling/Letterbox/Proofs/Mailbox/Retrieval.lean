import Letterbox.Proofs.Mailbox.Listing
import Letterbox.Proofs.Mailbox.Run

namespace Letterbox

def Mailbox.isOutdated (m : Mailbox) (now : Instant) (id : String) : Bool :=
  match m.outdated? now with
  | .ok ids => ids.contains id
  | .error _ => false

def Operation.removes {α : Type} (m : Mailbox) (now : Instant) (id : String) :
    Operation α → Bool
  | .deleteOne removed => id == removed
  | .deleteMany ids => ids.contains id
  | .deleteMatching query =>
    match m.tables.matching? query with
    | .ok rows => (rows.map Row.id).contains id
    | .error _ => false
  | .deleteAll => true
  | .prune => m.isOutdated now id
  | .maintain => m.isOutdated now id
  | .startBackground => !m.started && m.isOutdated now id
  | _ => false

/-- The messages on a shelf after an operation, with the ids that they were stored under. -/
def Operation.shelve {α : Type} (m : Mailbox) (now : Instant) (shelf : List (String × Bytes)) :
    Operation α → List (String × Bytes)
  | .store id raw =>
    match (m.store now id raw).1 with
    | .ok id => (id, raw) :: shelf
    | .error _ => shelf
  | operation => shelf.filter fun p => !operation.removes m now p.1

namespace Mailbox

def packed (p : String × Bytes) : String × Bytes :=
  (p.1, Zstd.compress p.2)

def shelfAfter (m : Mailbox) (shelf : List (String × Bytes)) :
    List Request → List (String × Bytes)
  | [] => shelf
  | r :: requests => (m.after r).shelfAfter (r.operation.shelve m r.now shelf) requests

section Shelf

variable {m : Mailbox} (hopen : m.closed = false)

include hopen

theorem payloads_store (now : Instant) (id : String) (raw : Bytes)
    {shelf : List (String × Bytes)} (h : m.tables.payloads = shelf.map packed) :
    (m.store now id raw).2.tables.payloads =
      ((Operation.store id raw).shelve m now shelf).map packed := by
  rw [Operation.shelve]
  rcases store_cases hopen now id raw with
    ⟨why, -, heq⟩ | ⟨e, why, -, -, heq⟩ | ⟨e, known, t, -, hinsert, heq⟩
  · rw [heq]
    exact h
  · rw [heq]
    exact h
  · rw [heq]
    obtain ⟨m', hreceive, htables, -, -⟩ := receive_eq (m.touch now) now
      (arrivalSummary id (createdAt m.config.storage now e) raw e known) t
    have hpayloads := (Tables.replaceTags_messages (insertMessage_cases hinsert).2).2
    rw [hreceive, announceStats_tables, htables, hpayloads, Tables.insert, h]
    rfl

theorem payloads_deleteMany (now : Instant) (ids : List String) :
    (m.deleteMany now ids).2.tables.payloads =
      m.tables.payloads.filter fun p => !ids.contains p.1 := by
  rw [deleteMany_of_open hopen]
  split
  · rfl
  · simp only [announcePrune_tables, recordRemoval_tables, Tables.remove]

theorem payloads_prune (now : Instant) :
    (m.prune now).2.tables.payloads =
      m.tables.payloads.filter fun p => !m.isOutdated now p.1 := by
  rcases prune_cases m now with ⟨why, hids, heq⟩ | ⟨ids, hids, heq⟩
  · rw [heq]
    simp only [isOutdated, hids, Bool.not_false, List.filter_true]
  · rw [heq, payloads_deleteMany hopen]
    simp only [isOutdated, hids]

theorem payloads_maintain (now : Instant) :
    (m.maintain now).tables.payloads =
      m.tables.payloads.filter fun p => !m.isOutdated now p.1 := by
  rw [← payloads_prune hopen]
  unfold maintain
  split
  · rename_i heq
    rw [heq]
  · rename_i heq
    rw [heq, settle_tables]

theorem payloads_startBackground (now : Instant) :
    (m.startBackground now).2.tables.payloads =
      m.tables.payloads.filter fun p => !(!m.started && m.isOutdated now p.1) := by
  rcases startBackground_cases hopen now with ⟨hstarted, heq⟩ | ⟨hstarted, heq⟩
  · rw [heq, hstarted]
    simp only [Bool.not_true, Bool.false_and, Bool.not_false, List.filter_true]
  · have hmaintain := payloads_maintain (m := { m with started := true }) hopen now
    have hclosed := (leadsTo_maintain (m := { m with started := true }) hopen now).closed
    rw [heq, backfill_of_open (hclosed.trans hopen), hstarted]
    exact hmaintain

theorem payloads_deleteMatching (now : Instant) (query : String) :
    (m.deleteMatching now query).2.tables.payloads = m.tables.payloads.filter fun p =>
      !(Operation.deleteMatching query).removes m now p.1 := by
  rcases deleteMatching_cases hopen now query with ⟨why, hrows, heq⟩ | ⟨rows, hrows, heq⟩
  · rw [heq]
    simp only [Operation.removes, hrows, Bool.not_false, List.filter_true, touch_tables]
  · rw [heq, payloads_deleteMany (m := m.touch now) hopen]
    simp only [Operation.removes, hrows, touch_tables]

theorem payloads_deleteOne (hsound : m.tables.Sound) (now : Instant) (id : String) :
    (m.deleteOne now id).2.tables.payloads = m.tables.payloads.filter fun p => !(p.1 == id) := by
  rcases deleteOne_cases hopen now id with ⟨hrow, heq⟩ | ⟨r, -, heq⟩
  · rw [heq]
    refine (List.filter_eq_self.mpr ?_).symm
    intro p hp
    have hnot : id ∉ m.tables.payloads.map Prod.fst := by
      rw [hsound.shelved.payload_ids]
      exact Tables.row?_eq_none.mp hrow
    have hne : p.1 ≠ id := fun heq => hnot (heq ▸ List.mem_map_of_mem hp)
    simpa using hne
  · rw [heq, announceStats_tables, recordRemoval_tables]
    simp only [Tables.remove, List.contains_cons, List.contains_nil, Bool.or_false]

theorem payloads_message (now : Instant) (id : String) :
    (m.message now id).2.tables.payloads = m.tables.payloads := by
  rcases message_cases hopen now id with ⟨why, -, heq⟩ | ⟨msg, r, -, -, heq⟩ <;> rw [heq]
  · rfl
  · split
    · rfl
    · rw [putRead_tables]
      rfl

theorem payloads_mark (now : Instant) (id : String) (read : Bool) :
    (m.mark now id read).2.tables.payloads = m.tables.payloads := by
  rcases mark_cases hopen now id read with ⟨-, heq⟩ | ⟨r, -, heq⟩ <;> rw [heq]
  · rfl
  · split
    · rfl
    · rw [putRead_tables]
      rfl

theorem payloads_markAll (now : Instant) (read : Bool) :
    (m.markAll now read).2.tables.payloads = m.tables.payloads := by
  rw [markAll_of_open hopen]
  split
  · rw [announceStats_tables]
    rfl
  · rfl

theorem payloads_setTags (now : Instant) (id : String) (names : List String) :
    (m.setTags now id names).2.tables.payloads = m.tables.payloads := by
  rcases setTags_cases hopen now id names with
    ⟨-, heq⟩ | ⟨r, why, -, -, heq⟩ | ⟨r, known, t, -, htags, heq⟩ <;> rw [heq]
  · rfl
  · rfl
  · rw [announceStats_tables]
    exact (Tables.replaceTags_messages htags).2

theorem payloads_pruneTags (now : Instant) :
    (m.pruneTags now).2.tables.payloads = m.tables.payloads := by
  rw [pruneTags_of_open hopen]
  split
  · rw [announceStats_tables]
    rfl
  · rfl

theorem payloads_perform {α : Type} (hsound : m.tables.Sound) (now : Instant)
    (operation : Operation α) {shelf : List (String × Bytes)}
    (h : m.tables.payloads = shelf.map packed) :
    (operation.perform m now).2.tables.payloads =
      (operation.shelve m now shelf).map packed := by
  have hkept (keep : String → Bool) : (m.tables.payloads.filter fun p => keep p.1) =
      (shelf.filter fun p => keep p.1).map packed := by
    rw [h, List.filter_map]
    rfl
  have hall : m.tables.payloads = (shelf.filter fun _ => true).map packed := by
    rw [List.filter_true, h]
  cases operation with
  | look l =>
    rw [Operation.perform]
    rcases look_snd m now l with heq | heq <;> rw [heq] <;> exact hall
  | store id raw => exact payloads_store hopen now id raw h
  | message id => exact (payloads_message hopen now id).trans hall
  | mark id read => exact (payloads_mark hopen now id read).trans hall
  | markAll read => exact (payloads_markAll hopen now read).trans hall
  | setTags id names => exact (payloads_setTags hopen now id names).trans hall
  | clearTags id =>
    rw [Operation.perform, clearTags_of_open hopen]
    exact hall
  | pruneTags => exact (payloads_pruneTags hopen now).trans hall
  | deleteOne id =>
    exact (payloads_deleteOne hopen hsound now id).trans (hkept fun i => !(i == id))
  | deleteMany ids =>
    exact (payloads_deleteMany hopen now ids).trans (hkept fun i => !ids.contains i)
  | deleteMatching query =>
    exact (payloads_deleteMatching hopen now query).trans
      (hkept fun i => !(Operation.deleteMatching query).removes m now i)
  | deleteAll =>
    rw [Operation.perform, deleteAll_of_open hopen, announcePrune_tables]
    simp [Operation.shelve, Operation.removes, Tables.clear]
  | prune => exact (payloads_prune hopen now).trans (hkept fun i => !m.isOutdated now i)
  | backfill =>
    rw [Operation.perform, backfill_of_open hopen]
    exact hall
  | migrate => exact hall
  | vacuum => exact hall
  | maintain => exact (payloads_maintain hopen now).trans (hkept fun i => !m.isOutdated now i)
  | startBackground =>
    exact (payloads_startBackground hopen now).trans
      (hkept fun i => !(!m.started && m.isOutdated now i))

theorem payloads_run (hsound : m.tables.Sound) {shelf : List (String × Bytes)}
    (h : m.tables.payloads = shelf.map packed) (requests : List Request) :
    (m.run requests).tables.payloads = (m.shelfAfter shelf requests).map packed := by
  -- each request leads to another mailbox and another shelf
  induction requests generalizing m shelf with
  | nil => exact h
  | cons r requests ih =>
    have hfirst := leadsTo_perform hopen r.isDated r.operation
    exact ih (hfirst.closed.trans hopen) (hfirst.changes.sound hsound)
      (payloads_perform hopen hsound r.now r.operation h)

end Shelf

/-- That a mailbox has a message under an id: it gives back the raw bytes and the message in full,
and lists it once, in a list that leaves out no row. -/
structure Holds (m : Mailbox) (now : Instant) (id : String) (raw : Bytes) : Prop where
  raw : (m.raw now id).1 = .ok raw
  message : ∃ msg, (m.message now id).1 = .ok msg
  list : ∀ limit : UInt64, Tables.signedBound ≤ limit.toNat → ∃ l, (m.list now 0 limit).1 = .ok l ∧
    (l.map Summary.id).count id = 1 ∧ l.length = m.tables.messages.length

structure Lacks (m : Mailbox) (now : Instant) (id : String) : Prop where
  raw : (m.raw now id).1 = .error (.noMessage id)
  message : (m.message now id).1 = .error (.noMessage id)
  part : ∀ partId, (m.part now id partId).1 = .error (.noMessage id)
  setTags : ∀ names, (m.setTags now id names).1 = .error (.noMessage id)
  mark : ∀ read, (m.mark now id read).1 = .error (.noMessage id)
  isUnread : (m.isUnread now id).1 = .error (.noMessage id)
  deleteOne : (m.deleteOne now id).1 = .error (.noMessage id)

theorem contents_of_row? {t : Tables} (ht : t.Shelved) {id : String} {r : Row}
    (hrow : t.row? id = some r) :
    ∃ raw e created, t.raw? id = .ok raw ∧ Envelope.parse raw = .ok e ∧
      t.message? id = .ok (Message.ofEnvelope t r e) ∧
      r = { rowOf id created raw e with read := r.read } := by
  obtain ⟨p, hp, raw, e, created, hparse, -, rfl, hr⟩ := ht.payload?_of_row? hrow
  obtain ⟨-, rfl⟩ := Tables.mem_of_row? hrow
  have hraw : t.raw? r.id = .ok raw := by
    simp only [Tables.raw?, hp, Zstd.decompress?_compress]
  have henvelope : t.envelope? r.id = .ok e := by
    simp only [Tables.envelope?, hraw, Except.bind, hparse]
  have hmessage : t.message? r.id = .ok (Message.ofEnvelope t r e) := by
    simp only [Tables.message?, Tables.existing?, hrow, Except.bind, henvelope, Except.map]
  exact ⟨raw, e, created, hraw, hparse, hmessage, hr⟩

theorem holds_of_payload {m : Mailbox} (hopen : m.closed = false) (hsound : m.tables.Sound)
    {id : String} {raw : Bytes} (h : (id, Zstd.compress raw) ∈ m.tables.payloads) (now : Instant) :
    m.Holds now id raw := by
  have ht := hsound.shelved
  have hpayload := ht.payload?_of_mem h
  obtain ⟨r, hrow⟩ : ∃ r, m.tables.row? id = some r := ht.row_of_payload h
  have hraw : m.tables.raw? id = .ok raw := by
    simp only [Tables.raw?, hpayload, Zstd.decompress?_compress]
  obtain ⟨-, e, -, -, -, hmessage, -⟩ := contents_of_row? ht hrow
  constructor
  case raw => rw [Mailbox.raw, look_of_open hopen, hraw]
  case message =>
    rcases message_cases hopen now id with ⟨why, hfail, -⟩ | ⟨msg, r, -, -, heq⟩
    · rw [hmessage] at hfail
      cases hfail
    · exact ⟨msg, by rw [heq]⟩
  case list =>
    intro limit hlimit
    refine ⟨_, by rw [Mailbox.list, look_of_open hopen, Tables.list_unlimited _ hlimit], ?_,
      ht.length_summaries⟩
    have hmem : id ∈ m.tables.messages.map Row.id := by
      obtain ⟨hr, hid⟩ := Tables.mem_of_row? hrow
      exact hid ▸ List.mem_map_of_mem hr
    rw [ht.ids_perm.count_eq]
    exact List.count_eq_one_of_mem ht.ids_nodup hmem

theorem lacks_of_not_mem {m : Mailbox} (hopen : m.closed = false) (hsound : m.tables.Sound)
    {id : String} (h : id ∉ m.tables.payloads.map Prod.fst) (now : Instant) : m.Lacks now id := by
  have ht := hsound.shelved
  have hpayload := Tables.payload?_eq_none.mpr h
  have hrow : m.tables.row? id = none := Tables.row?_eq_none.mpr (ht.payload_ids ▸ h)
  have hraw : m.tables.raw? id = .error (.noMessage id) := by simp only [Tables.raw?, hpayload]
  have hmessage : m.tables.message? id = .error (.noMessage id) := by
    simp only [Tables.message?, Tables.existing?, hrow, Except.bind]
  constructor
  case raw => rw [Mailbox.raw, look_of_open hopen, hraw]
  case message =>
    rcases message_cases hopen now id with ⟨why, hfail, heq⟩ | ⟨msg, r, hok, -, -⟩
    · rw [heq, ← hfail, hmessage]
    · rw [hmessage] at hok
      cases hok
  case part =>
    intro partId
    rw [Mailbox.part, look_of_open hopen, Tables.part?, Tables.envelope?, hraw]
    rfl
  case setTags =>
    intro names
    rcases setTags_cases hopen now id names with ⟨-, heq⟩ | ⟨r, -, hsome, -⟩ | ⟨r, -, -, hsome, -⟩
    · rw [heq]
    · rw [hrow] at hsome
      cases hsome
    · rw [hrow] at hsome
      cases hsome
  case mark =>
    intro read
    rcases mark_cases hopen now id read with ⟨-, heq⟩ | ⟨r, hsome, -⟩
    · rw [heq]
    · rw [hrow] at hsome
      cases hsome
  case isUnread =>
    rw [Mailbox.isUnread, look_of_open hopen, Tables.isRead?, Tables.existing?, hrow]
    rfl
  case deleteOne =>
    rcases deleteOne_cases hopen now id with ⟨-, heq⟩ | ⟨r, hsome, -⟩
    · rw [heq]
    · rw [hrow] at hsome
      cases hsome

theorem retrieval_run {config : Config} {webhook : Bool} {start : Instant} {m : Mailbox}
    (hopen : open? config {} webhook start = .ok m) (requests : List Request) (now : Instant) :
    (∀ p ∈ m.shelfAfter [] requests, (m.run requests).Holds now p.1 p.2) ∧
      ∀ id, id ∉ (m.shelfAfter [] requests).map Prod.fst → (m.run requests).Lacks now id := by
  obtain ⟨htables, hclosed, -⟩ := open?_cases hopen
  have hsound : m.tables.Sound := htables ▸ Tables.sound_empty
  have hrun := leadsTo_run hclosed requests
  have hsound' := hrun.changes.sound hsound
  have hclosed' := hrun.closed.trans hclosed
  have hempty : m.tables.payloads = [].map packed := by rw [htables]; rfl
  have hpayloads := payloads_run hclosed hsound hempty requests
  constructor
  · intro p hp
    have hmem : packed p ∈ (m.run requests).tables.payloads := by
      rw [hpayloads]
      exact List.mem_map_of_mem hp
    exact holds_of_payload hclosed' hsound' hmem now
  · intro id hid
    have hids : (m.run requests).tables.payloads.map Prod.fst =
        (m.shelfAfter [] requests).map Prod.fst := by
      rw [hpayloads, List.map_map]
      rfl
    exact lacks_of_not_mem hclosed' hsound' (hids ▸ hid) now

theorem retrieval_run_store :
    open? {} {} false ⟨0, 0⟩ = .ok { config := {}, rules := ⟨[]⟩ } ∧
      (run { config := {}, rules := ⟨[]⟩ }
        [⟨⟨1, 0⟩, .store "a" [70, 58, 32, 120, 10, 10], by decide⟩,
         ⟨⟨2, 0⟩, .deleteMany ["b"], by decide⟩]).Holds ⟨3, 0⟩ "a" [70, 58, 32, 120, 10, 10] :=
  have hopen : open? {} {} false ⟨0, 0⟩ = .ok { config := {}, rules := ⟨[]⟩ } := rfl
  ⟨hopen, (retrieval_run hopen _ _).1 ("a", [70, 58, 32, 120, 10, 10]) (by decide +kernel)⟩

end Mailbox

end Letterbox
