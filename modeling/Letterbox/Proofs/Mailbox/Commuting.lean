import Letterbox.Proofs.Mailbox.Failure
import Letterbox.Proofs.Mailbox.Marks

namespace Letterbox

inductive Single : Type → Type where
  | raw : Single Bytes
  | message : Single Message
  | tags : Single (List String)
  | isUnread : Single Bool
  | mark (read : Bool) : Single Bool
  | clearTags : Single Unit
  | deleteOne : Single Unit

namespace Single

variable {α : Type}

def on (id : String) : Single α → Operation α
  | .raw => .look (.raw id)
  | .message => .message id
  | .tags => .look (.tags id)
  | .isUnread => .look (.isUnread id)
  | .mark read => .mark id read
  | .clearTags => .clearTags id
  | .deleteOne => .deleteOne id

def answer (t : Tables) (id : String) : Single α → Except MailError α
  | .raw => t.raw? id
  | .message => t.message? id
  | .tags => .ok (t.tagsOf id)
  | .isUnread => (t.isRead? id).map not
  | .mark read => (t.isRead? id).map (· != read)
  | .clearTags => .ok ()
  | .deleteOne => (t.existing? id).map fun _ => ()

def flagEdit (read : Bool) (r : Row) : Edit :=
  if r.read == read then .keep else .setRead read

def edit (t : Tables) (id : String) : Single α → Edit
  | .message => if (t.message? id).isOk then ((t.row? id).map (flagEdit true)).getD .keep else .keep
  | .mark read => ((t.row? id).map (flagEdit read)).getD .keep
  | .clearTags => .untag
  | .deleteOne => ((t.row? id).map fun r => .remove r.size).getD .keep
  | _ => .keep

end Single

namespace Tables

variable {t t' : Tables} {id : String} (h : t'.entry id = t.entry id)

include h

theorem row?_of_entry : t'.row? id = t.row? id :=
  congrArg Entry.row h

theorem tagsOf_of_entry : t'.tagsOf id = t.tagsOf id :=
  congrArg Entry.tags h

theorem raw?_of_entry : t'.raw? id = t.raw? id := by
  have hpayload : t'.payload? id = t.payload? id := congrArg Entry.payload h
  rw [raw?, hpayload, raw?]

theorem existing?_of_entry : t'.existing? id = t.existing? id := by
  rw [existing?, row?_of_entry h, existing?]

theorem isRead?_of_entry : t'.isRead? id = t.isRead? id := by
  rw [isRead?, existing?_of_entry h, isRead?]

theorem message?_of_entry : t'.message? id = t.message? id := by
  rcases Mailbox.existing?_cases t id with ⟨-, hnone⟩ | ⟨r, hrow, hsome⟩
  · rw [message?, existing?_of_entry h, hnone, message?, hnone]
    rfl
  · obtain ⟨-, rfl⟩ := mem_of_row? hrow
    have hdigest : Message.ofEnvelope t' r = Message.ofEnvelope t r := by
      funext e
      rw [Message.ofEnvelope, tagsOf_of_entry h, Message.ofEnvelope]
    rw [message?, existing?_of_entry h, envelope?, raw?_of_entry h, message?, envelope?, hsome,
      Except.bind, hdigest, Except.bind]

theorem answer_of_entry {α : Type} (p : Single α) : p.answer t' id = p.answer t id := by
  cases p with
  | raw => exact raw?_of_entry h
  | message => exact message?_of_entry h
  | tags => exact congrArg Except.ok (tagsOf_of_entry h)
  | isUnread => exact congrArg (Except.map not) (isRead?_of_entry h)
  | mark read => exact congrArg (Except.map (· != read)) (isRead?_of_entry h)
  | clearTags => rfl
  | deleteOne => exact congrArg (Except.map fun _ => ()) (existing?_of_entry h)

theorem edit_of_entry {α : Type} (p : Single α) : p.edit t' id = p.edit t id := by
  cases p with
  | message => rw [Single.edit, message?_of_entry h, row?_of_entry h, Single.edit]
  | mark read => rw [Single.edit, row?_of_entry h, Single.edit]
  | deleteOne => rw [Single.edit, row?_of_entry h, Single.edit]
  | _ => rfl

end Tables

namespace Mailbox

structure Edits (m m' : Mailbox) (id : String) (e : Edit) : Prop where
  closed : m'.closed = m.closed
  tables : m'.tables = m.tables.edit id e
  metrics : m'.metrics = m.metrics.countDeleted e.removal.count.toUInt64
  bytes : m'.activity.deletedBytes = m.activity.deletedBytes + e.removal.bytes

namespace Edits

variable {m m' : Mailbox} {a b id : String} {e : Edit}

theorem announced (h : m.Edits m' id e) (now : Instant) : m.Edits (m'.announceStats now) id e := by
  rw [announceStats]
  split <;> exact ⟨h.closed, h.tables, h.metrics, h.bytes⟩

theorem of_tables {t : Tables} (htables : t = m.tables.edit id e) (hnone : e.removal = {})
    (now : Instant) : m.Edits { m.touch now with tables := t } id e where
  closed := rfl
  tables := htables
  metrics := by
    have hsame : m.metrics.deleted + (0 : Nat).toUInt64 = m.metrics.deleted := UInt64.add_zero _
    rw [hnone, Metrics.countDeleted, hsame]
    rfl
  bytes := by
    rw [hnone]
    exact (UInt64.add_zero _).symm

theorem touched (m : Mailbox) (now : Instant) (id : String) : m.Edits (m.touch now) id .keep :=
  of_tables (t := m.tables) (m.tables.edit_keep id).symm rfl now

theorem flagged (m : Mailbox) (now : Instant) (id : String) (r : Row) (read : Bool) :
    m.Edits (if r.read == read then m.touch now else (m.touch now).putRead now id read) id
      (Single.flagEdit read r) := by
  rw [Single.flagEdit]
  split
  · exact touched m now id
  · exact (of_tables (m.tables.edit_setRead id read).symm rfl now).announced now

theorem entry_of_ne (h : m.Edits m' b e) (hne : a ≠ b) : m'.tables.entry a = m.tables.entry a := by
  rw [h.tables, Tables.entry_edit_of_ne hne]

end Edits

def editOf {α : Type} (m : Mailbox) (id : String) (p : Single α) : Edit :=
  if m.closed then .keep else p.edit m.tables id

structure Performs {α : Type} (m : Mailbox) (id : String) (p : Single α) (o : Outcome α) :
    Prop where
  answer : o.1 = m.ask fun t => p.answer t id
  edits : m.Edits o.2 id (m.editOf id p)

section Perform

variable {m : Mailbox} {α : Type}

theorem performs_of_closed (hclosed : m.closed = true) (now : Instant) (id : String)
    (p : Single α) : m.Performs id p ((p.on id).perform m now) := by
  have hfails : (p.on id).perform m now = (.error .closed, m.touch now) := by
    cases p <;> simp only [Single.on, Operation.perform, Look.perform, raw, message, tags, isUnread,
      mark, clearTags, deleteOne, look, ask_touch_of_closed hclosed]
  rw [hfails]
  constructor
  case answer => rw [ask_of_closed hclosed]
  case edits =>
    rw [editOf, if_pos hclosed]
    exact .touched m now id

theorem performs_of_open (hopen : m.closed = false) {id : String} {p : Single α}
    {o : Outcome α} (hanswer : o.1 = p.answer m.tables id)
    (hedits : m.Edits o.2 id (p.edit m.tables id)) : m.Performs id p o where
  answer := by rw [hanswer, ask_of_open hopen]
  edits := by
    rw [editOf, hopen, if_neg Bool.false_ne_true]
    exact hedits

section Open

variable (hopen : m.closed = false)

include hopen

theorem performs_look (now : Instant) {id : String} {p : Single α}
    {f : Tables → Except MailError α} (hanswer : f m.tables = p.answer m.tables id)
    (hkeep : p.edit m.tables id = .keep) : m.Performs id p (m.look now f) := by
  rw [look_of_open hopen]
  refine performs_of_open hopen hanswer ?_
  rw [hkeep]
  exact .touched m now id

theorem performs_message (now : Instant) (id : String) :
    m.Performs id .message (m.message now id) := by
  rcases message_cases hopen now id with ⟨why, hmessage, heq⟩ | ⟨msg, r, hmessage, hrow, heq⟩
  · have hkeep : Single.message.edit m.tables id = .keep := by
      simp [Single.edit, hmessage, Except.isOk, Except.toBool]
    rw [heq]
    refine performs_of_open hopen hmessage.symm ?_
    rw [hkeep]
    exact .touched m now id
  · have hflag : Single.message.edit m.tables id = Single.flagEdit true r := by
      simp [Single.edit, hmessage, hrow, Except.isOk, Except.toBool]
    rw [heq]
    refine performs_of_open hopen hmessage.symm ?_
    rw [hflag]
    simpa using Edits.flagged m now id r true

theorem performs_mark (now : Instant) (id : String) (read : Bool) :
    m.Performs id (.mark read) (m.mark now id read) := by
  refine performs_of_open hopen (answer_mark hopen now id read) ?_
  rcases mark_cases hopen now id read with ⟨hrow, heq⟩ | ⟨r, hrow, heq⟩
  · rw [heq]
    simpa [Single.edit, hrow] using Edits.touched m now id
  · have hflag : (Single.mark read).edit m.tables id = Single.flagEdit read r := by
      simp [Single.edit, hrow]
    rw [heq, hflag, apply_ite Prod.snd]
    exact .flagged m now id r read

theorem performs_deleteOne (now : Instant) (id : String) :
    m.Performs id .deleteOne (m.deleteOne now id) := by
  rcases deleteOne_cases hopen now id with ⟨hrow, heq⟩ | ⟨r, hrow, heq⟩ <;> rw [heq]
  · refine performs_of_open hopen ?_ ?_
    · simp [Single.answer, Tables.existing?, hrow, Except.map]
    · simpa [Single.edit, hrow] using Edits.touched m now id
  · refine performs_of_open hopen ?_ ?_
    · simp [Single.answer, Tables.existing?, hrow, Except.map]
    · have hedits : m.Edits ({ m.touch now with tables := m.tables.remove [id] }.recordRemoval
          { count := 1, bytes := r.size }) id (.remove r.size) :=
        ⟨rfl, (m.tables.edit_remove id r.size).symm, rfl, rfl⟩
      simpa [Single.edit, hrow] using hedits.announced now

end Open

theorem performs_on (m : Mailbox) (now : Instant) (id : String) (p : Single α) :
    m.Performs id p ((p.on id).perform m now) := by
  cases hclosed : m.closed with
  | true => exact performs_of_closed hclosed now id p
  | false =>
    cases p with
    | raw => exact performs_look hclosed now rfl rfl
    | message => exact performs_message hclosed now id
    | tags => exact performs_look hclosed now rfl rfl
    | isUnread => exact performs_look hclosed now rfl rfl
    | mark read => exact performs_mark hclosed now id read
    | clearTags =>
      rw [Single.on, Operation.perform, clearTags_of_open hclosed]
      exact performs_of_open hclosed rfl (.of_tables (m.tables.edit_untag id).symm rfl now)
    | deleteOne => exact performs_deleteOne hclosed now id

end Perform

section Apart

variable {m m' : Mailbox} {a b : String} {e : Edit} {α : Type}

theorem Edits.ask_of_ne (h : m.Edits m' b e) (hne : a ≠ b) (p : Single α) :
    (m'.ask fun t => p.answer t a) = m.ask fun t => p.answer t a := by
  simp only [ask, h.closed, Tables.answer_of_entry (h.entry_of_ne hne) p]

theorem Edits.editOf_of_ne (h : m.Edits m' b e) (hne : a ≠ b) (p : Single α) :
    m'.editOf a p = m.editOf a p := by
  simp only [editOf, h.closed, Tables.edit_of_entry (h.entry_of_ne hne) p]

theorem performs_after (h : m.Edits m' b e) (hne : a ≠ b) {p : Single α} {o : Outcome α}
    (ho : m'.Performs a p o) :
    o.1 = (m.ask fun t => p.answer t a) ∧ m'.Edits o.2 a (m.editOf a p) :=
  ⟨ho.answer.trans (h.ask_of_ne hne p), h.editOf_of_ne hne p ▸ ho.edits⟩

structure Alike (m m' : Mailbox) : Prop where
  tables : m'.tables = m.tables
  metrics : m'.metrics = m.metrics
  bytes : m'.activity.deletedBytes = m.activity.deletedBytes

theorem Edits.alike {first second first' second' : Mailbox} {f : Edit} (hne : a ≠ b)
    (h : m.Edits first a e) (hthen : first.Edits second b f)
    (h' : m.Edits first' b f) (hthen' : first'.Edits second' a e) : second.Alike second' where
  tables := by rw [hthen'.tables, h'.tables, hthen.tables, h.tables, Tables.edit_comm hne]
  metrics := by
    rw [hthen'.metrics, h'.metrics, hthen.metrics, h.metrics]
    simp only [Metrics.countDeleted, UInt64.add_assoc,
      UInt64.add_comm f.removal.count.toUInt64]
  bytes := by
    rw [hthen'.bytes, h'.bytes, hthen.bytes, h.bytes, UInt64.add_assoc,
      UInt64.add_comm f.removal.bytes, ← UInt64.add_assoc]

end Apart

theorem perform_comm (m : Mailbox) {a b : String} (hne : a ≠ b) {α β : Type} (p : Single α)
    (q : Single β) (early late early' late' : Instant) :
    let pFirst := (p.on a).perform m early
    let qSecond := (q.on b).perform pFirst.2 late
    let qFirst := (q.on b).perform m early'
    let pSecond := (p.on a).perform qFirst.2 late'
    pSecond.1 = pFirst.1 ∧ qSecond.1 = qFirst.1 ∧ qSecond.2.Alike pSecond.2 := by
  intro pFirst qSecond qFirst pSecond
  have hp : m.Performs a p pFirst := performs_on m early a p
  have hq : m.Performs b q qFirst := performs_on m early' b q
  obtain ⟨hqanswer, hqedits⟩ := performs_after hp.edits hne.symm (performs_on pFirst.2 late b q)
  obtain ⟨hpanswer, hpedits⟩ := performs_after hq.edits hne (performs_on qFirst.2 late' a p)
  exact ⟨hpanswer.trans hp.answer.symm, hqanswer.trans hq.answer.symm,
    hp.edits.alike hne hqedits hq.edits hpedits⟩

theorem perform_comm_stored :
    let s := ({ config := {}, rules := ⟨[]⟩ } : Mailbox).run
      [⟨⟨1, 0⟩, .store "a" [70, 58, 32, 120, 10, 10], by decide⟩,
       ⟨⟨2, 0⟩, .store "b" [70, 58, 32, 121, 10, 10], by decide⟩]
    let marked := s.mark ⟨3, 0⟩ "a" true
    let deleted := s.deleteOne ⟨3, 0⟩ "b"
    marked.1 = .ok true ∧ deleted.1 = .ok () ∧
      (marked.2.deleteOne ⟨4, 0⟩ "b").2.Alike (deleted.2.mark ⟨5, 0⟩ "a" true).2 := by
  intro s marked deleted
  obtain ⟨-, -, halike⟩ := perform_comm s (a := "a") (b := "b") (by decide) (.mark true) .deleteOne
    ⟨3, 0⟩ ⟨4, 0⟩ ⟨3, 0⟩ ⟨5, 0⟩
  exact ⟨by decide +kernel, by decide +kernel, halike⟩

end Mailbox

end Letterbox
