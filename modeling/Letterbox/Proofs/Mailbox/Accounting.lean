import Letterbox.Proofs.Mailbox.Constants
import Letterbox.Proofs.Mailbox.Ledger
import Letterbox.Proofs.Mailbox.Run

namespace Letterbox

/-- What has been done with a mailbox: the messages that were stored, how often one was removed by
itself and one refused, and the messages whose room has not been reclaimed since they were
removed. -/
structure Books where
  stored : List String := []
  singles : Nat := 0
  refused : Nat := 0
  removed : List Row := []

namespace Books

def remove (rows : List Row) (b : Books) : Books :=
  { b with removed := b.removed ++ rows }

def reclaim (b : Books) : Books :=
  { b with removed := [] }

theorem remove_nil (b : Books) : b.remove [] = b := by
  simp [remove]

structure Agrees (b : Books) (first : Nat) (webhook : Bool) (t : Tables) (l : Ledger) : Prop where
  ids_nodup : (t.messages.map Row.id).Nodup
  total : t.messages.length.toUInt64 = first.toUInt64 + l.stored - l.deleted
  stored : l.stored = b.stored.length.toUInt64
  arrivals : l.arrivals.map Summary.id = b.stored
  deliveries : l.deliveries = if webhook then l.arrivals else []
  deleted : l.deleted = b.singles.toUInt64 + l.pruned
  malformed : l.malformed = b.refused.toUInt64
  deletedBytes : l.deletedBytes = (b.removed.map Row.size).sum

namespace Agrees

variable {b : Books} {first : Nat} {webhook : Bool} {t t' : Tables} {l : Ledger}

theorem of_ids (h : b.Agrees first webhook t l)
    (hids : t'.messages.map Row.id = t.messages.map Row.id) : b.Agrees first webhook t' l := by
  have hlength : t'.messages.length = t.messages.length := by
    simpa only [List.length_map] using congrArg List.length hids
  exact { h with ids_nodup := hids ▸ h.ids_nodup, total := hlength ▸ h.total }

theorem receive (h : b.Agrees first webhook t l) {s : Summary}
    (hnew : s.id ∉ t.messages.map Row.id)
    (hids : t'.messages.map Row.id = s.id :: t.messages.map Row.id) :
    { b with stored := b.stored ++ [s.id] }.Agrees first webhook t' (l.receive webhook s) := by
  have hlength : t'.messages.length = t.messages.length + 1 := by
    simpa only [List.length_map, List.length_cons] using congrArg List.length hids
  exact { h with
    ids_nodup := by
      rw [hids]
      exact List.nodup_cons.mpr ⟨hnew, h.ids_nodup⟩
    total := by
      have htotal := h.total
      have hone : (t.messages.length + 1).toUInt64 = t.messages.length.toUInt64 + 1 :=
        UInt64.ofNat_add _ _
      simp only [Ledger.receive, hlength, hone]
      grind
    stored := by
      rw [List.length_append, List.length_singleton]
      exact (congrArg (· + 1) h.stored).trans (UInt64.ofNat_add _ _).symm
    arrivals := by
      simp only [Ledger.receive, List.map_append, List.map_cons, List.map_nil, h.arrivals]
    deliveries := by
      simp only [Ledger.receive, h.deliveries]
      cases webhook <;> simp }

theorem refuse (h : b.Agrees first webhook t l) :
    { b with refused := b.refused + 1 }.Agrees first webhook t
      { l with malformed := l.malformed + 1 } :=
  { h with malformed := (congrArg (· + 1) h.malformed).trans (UInt64.ofNat_add _ _).symm }

theorem shed (h : b.Agrees first webhook t l) (ids : List String) :
    (b.remove (t.rowsOf ids)).Agrees first webhook (t.remove ids) (l.shed (t.rowsOf ids)) := by
  have hlength : t.messages.length.toUInt64 =
      (t.rowsOf ids).length.toUInt64 + (t.remove ids).messages.length.toUInt64 := by
    rw [← t.length_rowsOf_add ids]
    exact UInt64.ofNat_add _ _
  exact { h with
    ids_nodup := h.ids_nodup.sublist (List.filter_sublist.map _)
    total := by
      have htotal := h.total
      simp only [Ledger.shed]
      grind
    deleted := by
      have hdeleted := h.deleted
      simp only [Ledger.shed, remove]
      grind
    deletedBytes := by
      simp only [Ledger.shed, remove, h.deletedBytes, Tables.bytesOf_eq_sum, List.map_append,
        List.sum_append] }

theorem removeOne (h : b.Agrees first webhook t l) {id : String} {r : Row}
    (hrow : t.row? id = some r) :
    { b.remove (t.rowsOf [id]) with singles := b.singles + 1 }.Agrees first webhook
      (t.remove [id]) (l.removeOne r) := by
  have hshed := h.shed [id]
  rw [Tables.rowsOf_singleton h.ids_nodup hrow] at hshed ⊢
  -- the ledger is that of several messages but for what has been told
  exact { hshed with
    total := hshed.total
    deleted := by
      have hdeleted := h.deleted
      have hone : (b.singles + 1).toUInt64 = b.singles.toUInt64 + 1 := UInt64.ofNat_add _ _
      simp only [Ledger.removeOne, hone]
      grind
    deletedBytes := by
      simp only [Ledger.removeOne, remove, h.deletedBytes, List.map_append, List.sum_append,
        List.map_cons, List.map_nil, List.sum_cons, List.sum_nil, UInt64.add_zero] }

theorem reclaim (h : b.Agrees first webhook t l) : b.reclaim.Agrees first webhook t l.reclaim :=
  { h with deletedBytes := rfl }

theorem clear (h : b.Agrees first webhook t l) :
    b.reclaim.Agrees first webhook t.clear (l.shed t.messages).reclaim := by
  have hshed := h.shed (t.messages.map Row.id)
  have hlength := t.length_rowsOf_add (t.messages.map Row.id)
  rw [t.rowsOf_ids] at hshed hlength
  have hnone : (t.remove (t.messages.map Row.id)).messages = [] :=
    List.length_eq_zero_iff.mp (by omega)
  refine hshed.reclaim.of_ids ?_
  rw [hnone]
  rfl

end Agrees

end Books

namespace Mailbox

def isDue (m : Mailbox) (now : Instant) : Bool :=
  if m.activity.idleFor (clock now) < m.config.retention.idleAfterSeconds.toNat * 1000 then false
  else !(m.activity.deletedBytes == 0 || m.closed)

def reclaims (m : Mailbox) (now : Instant) : Bool :=
  match (m.prune now).1 with
  | .error .ageOutOfRange => false
  | _ => (m.prune now).2.isDue now

def enterPass (m : Mailbox) (now : Instant) (b : Books) : Books :=
  if m.reclaims now then b.reclaim else b.remove (m.tables.lost (m.maintain now).tables)

end Mailbox

def Operation.enter {α : Type} (m : Mailbox) (now : Instant) (b : Books) : Operation α → Books
  | .store id raw =>
    match (m.store now id raw).1 with
    | .ok id => { b with stored := b.stored ++ [id] }
    | .error (.malformed _) => { b with refused := b.refused + 1 }
    | .error _ => b
  | .deleteOne id =>
    match (m.deleteOne now id).1 with
    | .ok _ =>
      { b.remove (m.tables.lost (m.deleteOne now id).2.tables) with singles := b.singles + 1 }
    | .error _ => b
  | .deleteMany ids => b.remove (m.tables.lost (m.deleteMany now ids).2.tables)
  | .deleteMatching query => b.remove (m.tables.lost (m.deleteMatching now query).2.tables)
  | .prune => b.remove (m.tables.lost (m.prune now).2.tables)
  | .deleteAll =>
    match (m.deleteAll now).1 with
    | .ok _ => b.reclaim
    | .error _ => b
  | .maintain => m.enterPass now b
  | .startBackground =>
    if m.started || m.closed then b else { m with started := true }.enterPass now b
  | _ => b

namespace Mailbox

def booksAfter (m : Mailbox) (b : Books) : List Request → Books
  | [] => b
  | r :: requests => (m.after r).booksAfter (r.operation.enter m r.now b) requests

theorem ledger_settle (m : Mailbox) (now : Instant) :
    (m.settle now).ledger = if m.isDue now then m.ledger.reclaim else m.ledger := by
  unfold settle isDue
  split
  · rfl
  · have hsame : m.activity.enterIdle.2.deletedBytes = m.activity.deletedBytes := rfl
    dsimp only
    rw [hsame]
    cases m.activity.deletedBytes == 0 || m.closed <;> rfl

theorem maintain_eq (m : Mailbox) (now : Instant) :
    (m.maintain now).tables = (m.prune now).2.tables ∧ (m.maintain now).ledger =
      if m.reclaims now then (m.prune now).2.ledger.reclaim else (m.prune now).2.ledger := by
  unfold maintain reclaims
  split
  · rename_i heq
    rw [heq]
    exact ⟨rfl, rfl⟩
  · rename_i answer m' hother heq
    rw [heq]
    refine ⟨settle_tables m' now, ?_⟩
    dsimp only
    split
    · exact (hother rfl).elim
    · exact ledger_settle m' now

abbrev Agrees (m : Mailbox) (first : Nat) (webhook : Bool) (b : Books) : Prop :=
  b.Agrees first webhook m.tables m.ledger

theorem Agrees.steady {m m' : Mailbox} {first : Nat} {webhook : Bool} {b : Books}
    (h : m.Agrees first webhook b) (hsteady : m.Steady m') : m'.Agrees first webhook b := by
  rw [Agrees, hsteady.ledger]
  exact h.of_ids hsteady.ids

section Operations

variable {m : Mailbox} (hopen : m.closed = false) {first : Nat} {b : Books}
  (h : m.Agrees first m.webhook b)

include hopen h

theorem agrees_store (now : Instant) (id : String) (raw : Bytes) :
    (m.store now id raw).2.Agrees first m.webhook ((Operation.store id raw).enter m now b) := by
  rw [Operation.enter]
  rcases store_cases hopen now id raw with
    ⟨why, -, heq⟩ | ⟨e, why, -, hfail, heq⟩ | ⟨e, known, t, -, hinsert, heq⟩
  · rw [heq]
    exact h.refuse
  · rw [heq]
    have hwhy := insertMessage_error hfail
    split
    · rename_i hok
      cases hok
    · rename_i w herror
      cases herror
      exact absurd rfl (hwhy w)
    · exact h
  · rw [heq]
    obtain ⟨hnew, htags⟩ := insertMessage_cases hinsert
    obtain ⟨m', hreceive, htables, -, -⟩ := receive_eq (m.touch now) now
      (arrivalSummary id (createdAt m.config.storage now e) raw e known) t
    have hafter : ((m.touch now).receive now
        (arrivalSummary id (createdAt m.config.storage now e) raw e known) t).tables = t := by
      rw [hreceive, announceStats_tables, htables]
    have hids : t.messages.map Row.id = id :: m.tables.messages.map Row.id := by
      rw [(Tables.replaceTags_messages htags).1]
      rfl
    rw [Agrees, hafter, ledger_receive]
    exact Books.Agrees.receive h (s := arrivalSummary id (createdAt m.config.storage now e) raw e
      known) (Tables.not_mem_of_isTaken hnew) hids

theorem agrees_deleteOne (now : Instant) (id : String) :
    (m.deleteOne now id).2.Agrees first m.webhook ((Operation.deleteOne id).enter m now b) := by
  rw [Operation.enter]
  rcases deleteOne_cases hopen now id with ⟨-, heq⟩ | ⟨r, hrow, heq⟩ <;> rw [heq]
  · exact h
  · rw [Agrees, ledger_announceStats, announceStats_tables, recordRemoval_tables,
      Tables.lost_remove]
    exact h.removeOne hrow

theorem agrees_deleteMany (now : Instant) (ids : List String) :
    (m.deleteMany now ids).2.Agrees first m.webhook
      (b.remove (m.tables.lost (m.deleteMany now ids).2.tables)) := by
  rw [Agrees, ledger_deleteMany hopen, tables_deleteMany hopen, Tables.lost_remove]
  exact h.shed ids

theorem agrees_deleteMatching (now : Instant) (query : String) :
    (m.deleteMatching now query).2.Agrees first m.webhook
      (b.remove (m.tables.lost (m.deleteMatching now query).2.tables)) := by
  rcases deleteMatching_cases hopen now query with ⟨why, -, heq⟩ | ⟨rows, -, heq⟩ <;> rw [heq]
  · rw [touch_tables, Tables.lost_self, Books.remove_nil]
    exact h
  · exact agrees_deleteMany (m := m.touch now) hopen h now _

theorem agrees_prune (now : Instant) :
    (m.prune now).2.Agrees first m.webhook
      (b.remove (m.tables.lost (m.prune now).2.tables)) := by
  rcases prune_cases m now with ⟨why, -, heq⟩ | ⟨ids, -, heq⟩ <;> rw [heq]
  · rw [Tables.lost_self, Books.remove_nil]
    exact h
  · exact agrees_deleteMany hopen h now ids

theorem agrees_deleteAll (now : Instant) :
    (m.deleteAll now).2.Agrees first m.webhook (Operation.deleteAll.enter m now b) := by
  have hanswer : Operation.deleteAll.enter m now b = b.reclaim := by
    rw [Operation.enter, deleteAll_of_open hopen]
  rw [Agrees, hanswer, ledger_deleteAll hopen, tables_deleteAll hopen]
  exact h.clear

theorem agrees_maintain (now : Instant) :
    (m.maintain now).Agrees first m.webhook (m.enterPass now b) := by
  have hprune := agrees_prune hopen h now
  obtain ⟨htables, hledger⟩ := maintain_eq m now
  rw [Agrees, hledger, htables, enterPass, htables]
  split
  · exact hprune.reclaim
  · exact hprune

theorem agrees_startBackground (now : Instant) :
    (m.startBackground now).2.Agrees first m.webhook (Operation.startBackground.enter m now b) := by
  rw [Operation.enter]
  rcases startBackground_cases hopen now with ⟨hstarted, heq⟩ | ⟨hstarted, heq⟩ <;> rw [heq]
  · rw [hstarted, Bool.true_or, if_pos rfl]
    exact h
  · have hfresh : (m.started || m.closed) = false := by
      rw [hstarted, hopen]
      rfl
    rw [hfresh, if_neg Bool.false_ne_true]
    have hpass := agrees_maintain (m := { m with started := true }) hopen h now
    have hclosed : ({ m with started := true }.maintain now).closed = false :=
      (congrArg Constants.closed constants_maintain).trans hopen
    exact (hpass.steady (steady_backfill hclosed))

theorem agrees_perform {α : Type} (now : Instant) (operation : Operation α) :
    (operation.perform m now).2.Agrees first m.webhook (operation.enter m now b) := by
  cases operation with
  | look l => exact h.steady (steady_look m now l)
  | store id raw => exact agrees_store hopen h now id raw
  | message id => exact h.steady (steady_message hopen now id)
  | mark id read => exact h.steady (steady_mark hopen now id read)
  | markAll read => exact h.steady (steady_markAll hopen now read)
  | setTags id names => exact h.steady (steady_setTags hopen now id names)
  | clearTags id => exact h.steady (steady_clearTags hopen now id)
  | pruneTags => exact h.steady (steady_pruneTags hopen now)
  | deleteOne id => exact agrees_deleteOne hopen h now id
  | deleteMany ids => exact agrees_deleteMany hopen h now ids
  | deleteMatching query => exact agrees_deleteMatching hopen h now query
  | deleteAll => exact agrees_deleteAll hopen h now
  | prune => exact agrees_prune hopen h now
  | backfill => exact h.steady (steady_backfill hopen)
  | migrate => exact h
  | vacuum => exact h
  | maintain => exact agrees_maintain hopen h now
  | startBackground => exact agrees_startBackground hopen h now

theorem agrees_run (requests : List Request) :
    (m.run requests).Agrees first m.webhook (m.booksAfter b requests) := by
  induction requests generalizing m b with
  | nil => exact h
  | cons r requests ih =>
    have hfirst := agrees_perform hopen h r.now r.operation
    have hclosed : (m.after r).closed = false := (closed_perform r.operation).trans hopen
    have hwebhook : (m.after r).webhook = m.webhook := webhook_perform r.operation
    have hrest := ih hclosed (hwebhook.symm ▸ hfirst)
    rwa [hwebhook] at hrest

end Operations

theorem agrees_of_open? {t : Tables} (hids : (t.messages.map Row.id).Nodup) {config : Config}
    {webhook : Bool} {start : Instant} {m : Mailbox}
    (hopen : open? config t webhook start = .ok m) :
    m.webhook = webhook ∧ m.Agrees t.messages.length webhook {} := by
  unfold open? at hopen
  split at hopen <;> cases hopen
  refine ⟨rfl, ?_⟩
  exact {
    ids_nodup := hids
    total := by
      simp only [ledger]
      grind
    stored := rfl
    arrivals := rfl
    deliveries := by cases webhook <;> rfl
    deleted := rfl
    malformed := rfl
    deletedBytes := rfl }

theorem accounting_run {t : Tables} (hids : (t.messages.map Row.id).Nodup) {config : Config}
    {webhook : Bool} {start : Instant} {m : Mailbox}
    (hopen : open? config t webhook start = .ok m) (requests : List Request) (now : Instant) :
    ((m.run requests).countAll now).1 = .ok (t.messages.length.toUInt64 +
        (m.run requests).metrics.stored - (m.run requests).metrics.deleted) ∧
      (m.run requests).Agrees t.messages.length webhook (m.booksAfter {} requests) := by
  obtain ⟨-, hclosed, -⟩ := open?_cases hopen
  obtain ⟨rfl, hfirst⟩ := agrees_of_open? hids hopen
  have hagrees := agrees_run hclosed hfirst requests
  refine ⟨?_, hagrees⟩
  have hclosed' : (m.run requests).closed = false :=
    (leadsTo_run hclosed requests).closed.trans hclosed
  rw [countAll, look_of_open hclosed']
  exact congrArg Except.ok hagrees.total

theorem accounting_run_removals :
    let m : Mailbox := { config := {}, rules := ⟨[]⟩, webhook := true }
    let requests : List Request :=
      [⟨⟨1, 0⟩, .store "a" [70, 58, 32, 120, 10, 10], by decide⟩,
       ⟨⟨2, 0⟩, .store "b" [70, 58, 32, 121, 10, 10], by decide⟩,
       ⟨⟨3, 0⟩, .store "c" [120], by decide⟩,
       ⟨⟨4, 0⟩, .deleteOne "a", by decide⟩,
       ⟨⟨5, 0⟩, .deleteMany ["b", "b", "x"], by decide⟩]
    open? {} {} true ⟨0, 0⟩ = .ok m ∧
      (m.booksAfter {} requests).stored = ["a", "b"] ∧
      (m.booksAfter {} requests).singles = 1 ∧ (m.booksAfter {} requests).refused = 1 ∧
      (m.booksAfter {} requests).removed.map Row.size = [6, 6] ∧
      (m.run requests).Agrees 0 true (m.booksAfter {} requests) :=
  have hopen : open? {} {} true ⟨0, 0⟩ =
      .ok { config := {}, rules := ⟨[]⟩, webhook := true } := rfl
  ⟨hopen, by decide +kernel, by decide +kernel, by decide +kernel, by decide +kernel,
    (accounting_run (t := {}) .nil hopen _ ⟨6, 0⟩).2⟩

end Mailbox

end Letterbox
