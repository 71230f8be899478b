import Letterbox.Proofs.Mailbox.Retrieval
import Letterbox.Proofs.Mailbox.Tagging

namespace Letterbox

def Summary.Matches (s s' : Summary) : Prop :=
  s.created.millis = s'.created.millis ∧ { s with created := s'.created } = s'

structure Message.Expands (msg : Message) (s : Summary) (e : Envelope) : Prop where
  messageId : msg.messageId = s.messageId
  parties : msg.parties = s.parties
  subject : msg.subject = s.subject
  size : msg.size = s.size
  tags : msg.tags = s.tags
  date : msg.date = e.date.getD s.created

namespace Tables

variable {t : Tables}

theorem Shelved.eq_of_mem_summaries (ht : t.Shelved) {id : String} {r : Row} {s : Summary}
    (hrow : t.row? id = some r) (hs : t.summary? r = some s) {rows : List Row}
    (hrows : ∀ r ∈ rows, r ∈ t.messages) {e : Summary} (he : e ∈ t.summaries rows)
    (hid : e.id = id) : e = s := by
  obtain ⟨r', hr', he'⟩ := List.mem_filterMap.mp he
  have hrow' := ht.row?_of_mem (hrows r' hr')
  rw [← summary?_id he', hid, hrow, Option.some.injEq] at hrow'
  rw [← hrow', hs, Option.some.injEq] at he'
  exact he'.symm

theorem summary?_rowOf (t : Tables) (id : String) (created : Instant) (raw : Bytes) (e : Envelope)
    (read : Bool) : t.summary? { Mailbox.rowOf id created raw e with read := read } = some
      { Mailbox.arrivalSummary id created raw e (t.tagsOf id) with
        created := { Mailbox.rowOf id created raw e with read := read }.createdAt
        read := read } := by
  have hparties : (Mailbox.rowOf id created raw e).metadata.parties? =
      some (Parties.ofEnvelope e) := by
    rw [Mailbox.rowOf, Document.ofText, Parties.parse?_render]
    exact Parties.ofJson?_toJson _
  simp only [summary?, hparties]
  rfl

end Tables

namespace Mailbox

structure Views (m : Mailbox) (now : Instant) (id : String) (s : Summary) : Prop where
  listed : ∀ limit : UInt64, Tables.signedBound ≤ limit.toNat →
    ∃ l, (m.list now 0 limit).1 = .ok l ∧ (l.filter fun e => e.id == id) = [s]
  page : ∀ offset limit l, (m.list now offset limit).1 = .ok l → ∀ e ∈ l, e.id = id → e = s
  search : ∀ query offset limit found, (m.search now query offset limit).1 = .ok found →
    ∀ e ∈ found.messages, e.id = id → e = s
  message : ∃ msg e raw, (m.message now id).1 = .ok msg ∧ (m.raw now id).1 = .ok raw ∧
    Envelope.parse raw = .ok e ∧ msg.Expands s e

theorem views_of_row? {m : Mailbox} (hopen : m.closed = false) (hsound : m.tables.Sound)
    {id : String} {r : Row} (hrow : m.tables.row? id = some r) {s : Summary}
    (hs : m.tables.summary? r = some s) (now : Instant) : m.Views now id s := by
  have ht := hsound.shelved
  obtain ⟨hr, hid⟩ := Tables.mem_of_row? hrow
  constructor
  case listed =>
    intro limit hlimit
    refine ⟨_, by rw [Mailbox.list, look_of_open hopen, Tables.list_unlimited _ hlimit], ?_⟩
    have hmem : s ∈ m.tables.summaries m.tables.newestFirst :=
      Tables.mem_summaries_newestFirst.mpr ⟨r, hr, hs⟩
    have hnodup : ((m.tables.summaries m.tables.newestFirst).map Summary.id).Nodup :=
      ht.ids_perm.nodup_iff.mpr ht.ids_nodup
    rw [← hid, ← Tables.summary?_id hs]
    exact Text.filter_eq_singleton hnodup hmem
  case page =>
    intro offset limit l hl e he heid
    rw [Mailbox.list, look_of_open hopen] at hl
    cases hl
    exact ht.eq_of_mem_summaries hrow hs (Tables.mem_of_sublist (Tables.page_sublist _ _ _)) he heid
  case search =>
    intro query offset limit found hfound e he heid
    obtain ⟨rows, hrows, rfl⟩ := search_cases hopen hfound
    have hsub := (Tables.page_sublist offset limit rows).trans (Tables.matching?_sublist hrows)
    exact ht.eq_of_mem_summaries hrow hs (Tables.mem_of_sublist hsub) he heid
  case message =>
    obtain ⟨raw, e, created, hraw, hparse, hmessage, heq⟩ := contents_of_row? ht hrow
    have hsummary := m.tables.summary?_rowOf id created raw e r.read
    rw [← heq, hs, Option.some.injEq] at hsummary
    rcases message_cases hopen now id with ⟨why, hfail, -⟩ | ⟨msg, _, hok, -, hanswer⟩
    · rw [hmessage] at hfail
      cases hfail
    · rw [hmessage, Except.ok.injEq] at hok
      refine ⟨msg, e, raw, by rw [hanswer], by rw [Mailbox.raw, look_of_open hopen, hraw],
        hparse, ?_⟩
      subst hok hsummary
      exact {
        messageId := rfl
        parties := rfl
        subject := rfl
        size := congrArg Row.size heq
        tags := congrArg m.tables.tagsOf hid
        date := rfl }

def Announces (m m' : Mailbox) (id : String) : Prop :=
  ∃ s stats, m'.notices = m.notices ++ ((if m.webhook then [.delivery s] else []) ++
      [.event (.new s), .event (.stats stats)]) ∧
    ∀ now, ∃ entry, m'.Views now id entry ∧ s.Matches entry

theorem announces_store {m : Mailbox} (hopen : m.closed = false) (hsound : m.tables.Sound)
    {now : Instant} (hnow : now.isDated = true) {id id' : String} {raw : Bytes}
    (h : (m.store now id raw).1 = .ok id') : m.Announces (m.store now id raw).2 id' := by
  have hlater := leadsTo_store hopen hnow id raw
  rcases store_cases hopen now id raw with
    ⟨why, -, heq⟩ | ⟨e, why, -, -, heq⟩ | ⟨e, known, t, hparse, hinsert, heq⟩ <;> rw [heq] at h
  · cases h
  · cases h
  · cases h
    rw [heq] at hlater ⊢
    obtain ⟨hnew, htags⟩ := insertMessage_cases hinsert
    obtain ⟨m', hreceive, rfl, hclosed, hnotices⟩ := receive_eq (m.touch now) now
      (arrivalSummary id (createdAt m.config.storage now e) raw e known) t
    rw [hreceive] at hlater ⊢
    have hsound' := hlater.changes.sound hsound
    have hrow : (m'.announceStats now).tables.row? id =
        some (rowOf id (createdAt m.config.storage now e) raw e) := by
      rw [announceStats_tables, Tables.row?, (Tables.replaceTags_messages htags).1]
      exact List.find?_cons_of_pos (beq_self_eq_true id)
    have hknown : (m'.announceStats now).tables.tagsOf id = known := by
      rw [announceStats_tables]
      exact (hsound.tagged.insert _ _).tagsOf_replaceTags List.mem_cons_self htags
    have hsummary := (m'.announceStats now).tables.summary?_rowOf id
      (createdAt m.config.storage now e) raw e false
    rw [hknown] at hsummary
    refine ⟨arrivalSummary id (createdAt m.config.storage now e) raw e known, m'.tables.stats,
      ?_, ?_⟩
    · rw [announceStats_notices (hclosed.trans hopen), hnotices, List.append_assoc,
        List.append_assoc]
      rfl
    · intro later
      refine ⟨_, views_of_row? (hlater.closed.trans hopen) hsound' hrow hsummary later, ?_⟩
      obtain ⟨p, -, hdescribes⟩ := hsound'.shelved.payload?_of_row? hrow
      exact ⟨hdescribes.millis_createdAt.symm, rfl⟩

theorem views_run {t : Tables} (ht : t.Reached) {config : Config} {webhook : Bool}
    {start : Instant} {m : Mailbox} (hopen : open? config t webhook start = .ok m)
    (requests : List Request) :
    (∀ now id id' raw, now.isDated = true → ((m.run requests).store now id raw).1 = .ok id' →
      (m.run requests).Announces ((m.run requests).store now id raw).2 id') ∧
      ∀ id, ((m.run requests).tables.row? id).isSome = true →
        ∀ now, ∃ s, (m.run requests).Views now id s := by
  have hsound := (Tables.Reached.session ht hopen requests).sound
  obtain ⟨-, hclosed, -⟩ := open?_cases hopen
  have hclosed' := (leadsTo_run hclosed requests).closed.trans hclosed
  constructor
  · intro now id id' raw hnow hstore
    exact announces_store hclosed' hsound hnow hstore
  · intro id hid now
    obtain ⟨r, hrow⟩ := Option.isSome_iff_exists.mp hid
    obtain ⟨p, -, hdescribes⟩ := hsound.shelved.payload?_of_row? hrow
    obtain ⟨s, hs, -⟩ := Tables.summary?_of_describes _ hdescribes
    exact ⟨s, views_of_row? hclosed' hsound hrow hs now⟩

theorem views_run_tagged :
    let m : Mailbox := { config := {}, rules := ⟨[]⟩, webhook := true }
    let raw : Bytes := [88, 45, 84, 97, 103, 115, 58, 32, 98, 10, 10, 120]
    open? {} {} true ⟨0, 0⟩ = .ok m ∧ m.Announces (m.store ⟨1, 0⟩ "a" raw).2 "a" ∧
      ∃ s, (m.run [⟨⟨1, 0⟩, .store "a" raw, by decide⟩]).Views ⟨2, 0⟩ "a" s :=
  have hopen : open? {} {} true ⟨0, 0⟩ =
      .ok { config := {}, rules := ⟨[]⟩, webhook := true } := rfl
  ⟨hopen, (views_run .empty hopen []).1 ⟨1, 0⟩ "a" "a" _ (by decide) (by decide +kernel),
    (views_run .empty hopen _).2 "a" (by decide +kernel) ⟨2, 0⟩⟩

end Mailbox

end Letterbox
