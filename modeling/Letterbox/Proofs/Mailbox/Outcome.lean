import Letterbox.Mailbox.Operation
import Letterbox.Proofs.Mailbox.Planning
import Letterbox.Proofs.Mailbox.Removal

namespace Letterbox.Mailbox

variable {m : Mailbox}

@[simp] theorem touch_tables (m : Mailbox) (now : Instant) : (m.touch now).tables = m.tables :=
  rfl

@[simp] theorem touch_closed (m : Mailbox) (now : Instant) : (m.touch now).closed = m.closed :=
  rfl

@[simp] theorem touch_notices (m : Mailbox) (now : Instant) : (m.touch now).notices = m.notices :=
  rfl

@[simp] theorem touch_config (m : Mailbox) (now : Instant) : (m.touch now).config = m.config :=
  rfl

@[simp] theorem notify_notices (m : Mailbox) (n : Notice) :
    (m.notify n).notices = m.notices ++ [n] :=
  rfl

@[simp] theorem announceStats_tables (m : Mailbox) (now : Instant) :
    (m.announceStats now).tables = m.tables := by
  simp only [announceStats]
  split <;> rfl

@[simp] theorem announcePrune_tables (m : Mailbox) (now : Instant) (count : UInt64) :
    (m.announcePrune now count).tables = m.tables :=
  announceStats_tables _ now

@[simp] theorem recordRemoval_tables (m : Mailbox) (removed : Removal) :
    (m.recordRemoval removed).tables = m.tables :=
  rfl

@[simp] theorem putRead_tables (m : Mailbox) (now : Instant) (id : String) (read : Bool) :
    (m.putRead now id read).tables = m.tables.setRead id read :=
  announceStats_tables _ now

@[simp] theorem settle_tables (m : Mailbox) (now : Instant) :
    (m.settle now).tables = m.tables := by
  simp only [settle]
  split
  · rfl
  · split <;> rfl

theorem ask_of_open {α : Type} (hopen : m.closed = false) (f : Tables → Except MailError α) :
    m.ask f = f m.tables := by
  simp [ask, hopen]

theorem ask_touch {α : Type} (hopen : m.closed = false) (now : Instant)
    (f : Tables → Except MailError α) : (m.touch now).ask f = f m.tables :=
  ask_of_open (m := m.touch now) hopen f

theorem announceStats_of_open (hopen : m.closed = false) (now : Instant) :
    m.announceStats now = (m.touch now).notify (.event (.stats m.tables.stats)) := by
  simp [announceStats, hopen]

theorem announceStats_notices (hopen : m.closed = false) (now : Instant) :
    (m.announceStats now).notices = m.notices ++ [.event (.stats m.tables.stats)] := by
  rw [announceStats_of_open hopen, notify_notices, touch_notices]

theorem look_snd {α : Type} (m : Mailbox) (now : Instant) (l : Look α) :
    (l.perform m now).2 = m ∨ (l.perform m now).2 = m.touch now := by
  cases l <;> first | exact Or.inl rfl | exact Or.inr rfl

theorem look_of_open {α : Type} (hopen : m.closed = false) (f : Tables → Except MailError α) :
    m.look now f = (f m.tables, m.touch now) := by
  simp [look, ask, hopen]

theorem list_of_open (hopen : m.closed = false) (now : Instant) (offset limit : UInt64) :
    m.list now offset limit = (.ok (m.tables.list offset limit), m.touch now) :=
  look_of_open hopen _

theorem search_cases (hopen : m.closed = false) {now : Instant} {query : String}
    {offset limit : UInt64} {found : SearchResults}
    (h : (m.search now query offset limit).1 = .ok found) :
    ∃ rows, m.tables.matching? query = .ok rows ∧ found =
      { messages := m.tables.summaries (Tables.page offset limit rows)
        total := rows.length.toUInt64 } := by
  rw [search, look_of_open hopen, Tables.search?_eq] at h
  cases hrows : m.tables.matching? query with
  | error why =>
    rw [hrows] at h
    cases h
  | ok rows =>
    rw [hrows] at h
    cases h
    exact ⟨rows, rfl, rfl⟩

theorem search_of_matching (hopen : m.closed = false) (now : Instant) {query : String}
    {rows : List Row} (h : m.tables.matching? query = .ok rows) (offset limit : UInt64) :
    m.search now query offset limit = (.ok
      { messages := m.tables.summaries (Tables.page offset limit rows)
        total := rows.length.toUInt64 }, m.touch now) := by
  rw [search, look_of_open hopen, Tables.search?_eq, h]
  rfl

theorem insertMessage_touch (m : Mailbox) (now : Instant) (id : String) (created : Instant)
    (raw : Bytes) (e : Envelope) :
    (m.touch now).insertMessage id created raw e = m.insertMessage id created raw e :=
  rfl

theorem insertMessage_cases {id : String} {created : Instant} {raw : Bytes} {e : Envelope}
    {known : List String} {t : Tables} (h : m.insertMessage id created raw e = .ok (known, t)) :
    m.tables.isTaken id = false ∧
      (m.tables.insert (rowOf id created raw e) (Zstd.compress raw)).replaceTags id
        (m.arrivalTags raw e) = .ok (known, t) := by
  unfold insertMessage at h
  split at h
  · cases h
  · rename_i hfree
    exact ⟨by simpa using hfree, h⟩

theorem receive_eq (m : Mailbox) (now : Instant) (s : Summary) (t : Tables) :
    ∃ m' : Mailbox, m.receive now s t = m'.announceStats now ∧ m'.tables = t ∧
      m'.closed = m.closed ∧ m'.notices =
        m.notices ++ ((if m.webhook then [.delivery s] else []) ++ [.event (.new s)]) := by
  let stored : Mailbox := { m with tables := t, metrics := m.metrics.countStored }
  cases hwebhook : m.webhook with
  | false =>
    exact ⟨stored.notify (.event (.new s)), by simp [receive, hwebhook, stored], rfl, rfl, rfl⟩
  | true =>
    exact ⟨(stored.notify (.delivery s)).notify (.event (.new s)),
      by simp [receive, hwebhook, stored], rfl, rfl, by simp [stored]⟩

theorem store_cases (hopen : m.closed = false) (now : Instant) (id : String) (raw : Bytes) :
    (∃ why, Envelope.parse raw = .error why ∧ m.store now id raw =
      (.error (.malformed why), { m.touch now with metrics := m.metrics.countMalformed })) ∨
    (∃ e why, Envelope.parse raw = .ok e ∧
      m.insertMessage id (createdAt m.config.storage now e) raw e = .error why ∧
      m.store now id raw = (.error why, m.touch now)) ∨
    ∃ e known t, Envelope.parse raw = .ok e ∧
      m.insertMessage id (createdAt m.config.storage now e) raw e = .ok (known, t) ∧
      m.store now id raw = (.ok id, (m.touch now).receive now
        (arrivalSummary id (createdAt m.config.storage now e) raw e known) t) := by
  cases hparse : Envelope.parse raw with
  | error why => exact Or.inl ⟨why, rfl, by simp only [store, hparse]; rfl⟩
  | ok e =>
    cases hinsert : m.insertMessage id (createdAt m.config.storage now e) raw e with
    | error why =>
      exact Or.inr (Or.inl ⟨e, why, rfl, hinsert, by
        simp only [store, hparse, touch_config, ask_touch hopen, insertMessage_touch, hinsert]⟩)
    | ok p =>
      obtain ⟨known, t⟩ := p
      exact Or.inr (Or.inr ⟨e, known, t, rfl, hinsert, by
        simp only [store, hparse, touch_config, ask_touch hopen, insertMessage_touch, hinsert]⟩)

theorem existing?_cases (t : Tables) (id : String) :
    (t.row? id = none ∧ t.existing? id = .error (.noMessage id)) ∨
      ∃ r, t.row? id = some r ∧ t.existing? id = .ok r := by
  cases hrow : t.row? id with
  | none => exact Or.inl ⟨rfl, by simp only [Tables.existing?, hrow]⟩
  | some r => exact Or.inr ⟨r, rfl, by simp only [Tables.existing?, hrow]⟩

theorem message_cases (hopen : m.closed = false) (now : Instant) (id : String) :
    (∃ why, m.tables.message? id = .error why ∧
      m.message now id = (.error why, m.touch now)) ∨
    ∃ msg r, m.tables.message? id = .ok msg ∧ m.tables.row? id = some r ∧
      m.message now id =
        (.ok msg, if r.read then m.touch now else (m.touch now).putRead now id true) := by
  cases hmessage : m.tables.message? id with
  | error why =>
    exact Or.inl ⟨why, rfl, by simp only [message, ask_touch hopen, hmessage]; rfl⟩
  | ok msg =>
    rcases existing?_cases m.tables id with ⟨-, hnone⟩ | ⟨r, hrow, hsome⟩
    · rw [Tables.message?, hnone] at hmessage
      cases hmessage
    · have hread : m.tables.isRead? id = .ok r.read := by rw [Tables.isRead?, hsome]; rfl
      exact Or.inr ⟨msg, r, rfl, hrow, by
        simp only [message, ask_touch hopen, hmessage, hread]; rfl⟩

theorem mark_cases (hopen : m.closed = false) (now : Instant) (id : String) (read : Bool) :
    (m.tables.row? id = none ∧ m.mark now id read = (.error (.noMessage id), m.touch now)) ∨
    ∃ r, m.tables.row? id = some r ∧ m.mark now id read =
      if r.read == read then (.ok false, m.touch now)
      else (.ok true, (m.touch now).putRead now id read) := by
  rcases existing?_cases m.tables id with ⟨hrow, hnone⟩ | ⟨r, hrow, hsome⟩
  · have hread : m.tables.isRead? id = .error (.noMessage id) := by
      rw [Tables.isRead?, hnone]; rfl
    exact Or.inl ⟨hrow, by simp only [mark, ask_touch hopen, hread]⟩
  · have hread : m.tables.isRead? id = .ok r.read := by rw [Tables.isRead?, hsome]; rfl
    exact Or.inr ⟨r, hrow, by simp only [mark, ask_touch hopen, hread]⟩

theorem markAll_of_open (hopen : m.closed = false) (now : Instant) (read : Bool) :
    m.markAll now read = (.ok (m.tables.setAllRead read).1.toUInt64,
      if 0 < (m.tables.setAllRead read).1 then
        { m.touch now with tables := (m.tables.setAllRead read).2 }.announceStats now
      else m.touch now) := by
  simp only [markAll, ask_touch hopen]

theorem setTags_cases (hopen : m.closed = false) (now : Instant) (id : String)
    (names : List String) :
    (m.tables.row? id = none ∧ m.setTags now id names = (.error (.noMessage id), m.touch now)) ∨
    (∃ r why, m.tables.row? id = some r ∧ m.tables.replaceTags id names = .error why ∧
      m.setTags now id names = (.error why, m.touch now)) ∨
    ∃ r known t, m.tables.row? id = some r ∧ m.tables.replaceTags id names = .ok (known, t) ∧
      m.setTags now id names = (.ok known, { m.touch now with tables := t }.announceStats now) := by
  rcases existing?_cases m.tables id with ⟨hrow, hnone⟩ | ⟨r, hrow, hsome⟩
  · exact Or.inl ⟨hrow, by simp only [setTags, ask_touch hopen, hnone]; rfl⟩
  · cases htags : m.tables.replaceTags id names with
    | error why =>
      exact Or.inr (Or.inl ⟨r, why, hrow, rfl, by
        simp only [setTags, ask_touch hopen, hsome, htags]; rfl⟩)
    | ok p =>
      obtain ⟨known, t⟩ := p
      exact Or.inr (Or.inr ⟨r, known, t, hrow, rfl, by
        simp only [setTags, ask_touch hopen, hsome, htags]; rfl⟩)

theorem clearTags_of_open (hopen : m.closed = false) (now : Instant) (id : String) :
    m.clearTags now id = (.ok (), { m.touch now with tables := m.tables.untag id }) := by
  simp only [clearTags, ask_touch hopen]

theorem pruneTags_of_open (hopen : m.closed = false) (now : Instant) :
    m.pruneTags now = (.ok (m.tables.tags.length - m.tables.pruneTags.tags.length).toUInt64,
      if 0 < m.tables.tags.length - m.tables.pruneTags.tags.length then
        { m.touch now with tables := m.tables.pruneTags }.announceStats now
      else m.touch now) := by
  simp only [pruneTags, ask_touch hopen]
  rfl

theorem deleteOne_cases (hopen : m.closed = false) (now : Instant) (id : String) :
    (m.tables.row? id = none ∧ m.deleteOne now id = (.error (.noMessage id), m.touch now)) ∨
    ∃ r, m.tables.row? id = some r ∧ m.deleteOne now id = (.ok (),
      ({ m.touch now with tables := m.tables.remove [id] }.recordRemoval
        { count := 1, bytes := r.size }).announceStats now) := by
  rcases existing?_cases m.tables id with ⟨hrow, hnone⟩ | ⟨r, hrow, hsome⟩
  · exact Or.inl ⟨hrow, by simp only [deleteOne, ask_touch hopen, hnone]⟩
  · exact Or.inr ⟨r, hrow, by simp only [deleteOne, ask_touch hopen, hsome, touch_tables]⟩

theorem deleteMany_of_open (hopen : m.closed = false) (now : Instant) (ids : List String) :
    m.deleteMany now ids = (.ok (m.tables.rowsOf ids).length.toUInt64,
      if m.tables.rowsOf ids = [] then { m with tables := m.tables.remove ids }
      else ({ m with tables := m.tables.remove ids }.recordRemoval
        (.ofRows (m.tables.rowsOf ids))).announcePrune now
          (m.tables.rowsOf ids).length.toUInt64) := by
  cases ids with
  | nil =>
    rw [Tables.rowsOf_nil, Tables.remove_nil, if_pos rfl]
    rfl
  | cons id ids =>
    simp only [deleteMany, List.isEmpty_cons, Bool.false_eq_true, if_false, hopen,
      Tables.removeChunks_chunks, Removal.ofRows, List.length_pos_iff, ne_eq, ite_not]

theorem deleteMatching_cases (hopen : m.closed = false) (now : Instant) (query : String) :
    (∃ why, m.tables.matching? query = .error why ∧
      m.deleteMatching now query = (.error why, m.touch now)) ∨
    ∃ rows, m.tables.matching? query = .ok rows ∧
      m.deleteMatching now query = (m.touch now).deleteMany now (rows.map Row.id) := by
  cases hrows : m.tables.matching? query with
  | error why => exact Or.inl ⟨why, rfl, by simp only [deleteMatching, ask_touch hopen, hrows]⟩
  | ok rows => exact Or.inr ⟨rows, rfl, by simp only [deleteMatching, ask_touch hopen, hrows]⟩

theorem deleteAll_of_open (hopen : m.closed = false) (now : Instant) :
    m.deleteAll now = (.ok m.tables.messages.length.toUInt64,
      { m.touch now with
        tables := m.tables.clear
        metrics := m.metrics.countDeleted m.tables.messages.length.toUInt64
        activity := (m.touch now).activity.takeDeleted.2 }.announcePrune now
          m.tables.messages.length.toUInt64) := by
  simp [deleteAll, hopen, touch]

theorem prune_cases (m : Mailbox) (now : Instant) :
    (∃ why, m.outdated? now = .error why ∧ m.prune now = (.error why, m)) ∨
    ∃ ids, m.outdated? now = .ok ids ∧ m.prune now = m.deleteMany now ids := by
  cases hids : m.outdated? now with
  | error why =>
    exact Or.inl ⟨why, rfl, by simp only [prune, hids]⟩
  | ok ids => exact Or.inr ⟨ids, rfl, by simp only [prune, hids]⟩

theorem backfill_of_open (hopen : m.closed = false) :
    m.backfill = (.ok (m.tables.messages.filter fun r => r.snippet.isNone).length.toUInt64,
      { m with tables := m.tables.fillPreviews }) := by
  simp only [backfill, ask_of_open hopen]

theorem startBackground_cases (hopen : m.closed = false) (now : Instant) :
    (m.started = true ∧ m.startBackground now = (false, m)) ∨
      (m.started = false ∧ m.startBackground now =
        (true, ({ m with started := true }.maintain now).backfill.2)) := by
  cases hstarted : m.started with
  | true => exact Or.inl ⟨rfl, by simp [startBackground, hstarted]⟩
  | false => exact Or.inr ⟨rfl, by simp [startBackground, hstarted, hopen]⟩

end Letterbox.Mailbox
