import Letterbox.Proofs.Mailbox.Constants
import Letterbox.Proofs.Mailbox.Naming
import Letterbox.Proofs.Mailbox.Views

namespace Letterbox

open Text

namespace Tables

structure Retags (t t' : Tables) (id : String) (names known : List String) : Prop where
  shown : t'.tagsOf id = known
  increasing : known.Pairwise fun a b => (Tag.key a).toList < (Tag.key b).toList
  keys : ∀ k, k ∈ known.map Tag.key ↔ k ∈ (Tag.cleaned names).map Tag.key
  spelled : ∀ n ∈ known, (t.spelling (Tag.key n)).or (Tag.firstSeen names (Tag.key n)) = some n
  grown : ∃ added, t'.tags = t.tags ++ added ∧ (added.map TagRow.key).Nodup ∧
    ∀ k, k ∈ added.map TagRow.key ↔
      k ∈ (Tag.cleaned names).map Tag.key ∧ k ∉ t.tags.map TagRow.key
  others : ∀ other, other ≠ id → t'.tagsOf other = t.tagsOf other

variable {t t' : Tables} {id : String} {names known : List String}

theorem Tagged.retags (ht : t.Tagged) (hid : id ∈ t.messages.map Row.id)
    (h : t.replaceTags id names = .ok (known, t')) : t.Retags t' id names known := by
  obtain ⟨added, henters⟩ := enters_of_addTags (Tag.keys_nodup_normalize names) h
  have htags : t'.tags = t.tags ++ added := henters.tags
  have hknown : known = (Tag.normalize names).map t.spell := henters.known
  have hkeys : known.map Tag.key = (Tag.normalize names).map Tag.key := by
    rw [hknown, List.map_map]
    exact List.map_congr_left fun n _ => ht.key_spell n
  have hadded : added.map TagRow.key = (t.fresh (Tag.normalize names)).map Tag.key :=
    henters.new_keys
  constructor
  case shown => exact ht.tagsOf_replaceTags hid h
  case increasing =>
    have hstrict : ((Tag.normalize names).map Tag.key).Pairwise fun a b => a.toList < b.toList :=
      List.pairwise_map.mpr (Tag.pairwise_normalize names)
    rw [← hkeys, List.pairwise_map] at hstrict
    exact hstrict
  case keys =>
    intro k
    rw [hkeys, Tag.mem_keys_normalize]
  case spelled =>
    intro n hn
    rw [hknown] at hn
    obtain ⟨name, hname, rfl⟩ := List.mem_map.mp hn
    rw [ht.key_spell, Tag.mem_normalize.mp hname, spell]
    cases t.spelling (Tag.key name) <;> rfl
  case grown =>
    refine ⟨added, htags, ?_, ?_⟩
    · rw [hadded]
      exact (Tag.keys_nodup_normalize names).sublist (List.filter_sublist.map Tag.key)
    · intro k
      rw [hadded, mem_keys_fresh, Tag.mem_keys_normalize]
  case others =>
    intro other hother
    refine ht.tagsOf_of_links (ht.replaceTags hid h) (htags ▸ List.subset_append_left _ _) ?_
    intro number
    rw [links_of_addTags hother h, Tables.untag, List.mem_filter]
    exact and_iff_left (by simpa using hother)

theorem Retags.again (h : t.Retags t' id names known) (ht' : t'.Tagged)
    (hid : id ∈ t'.messages.map Row.id) :
    ∃ t'', t'.replaceTags id known = .ok (known, t'') ∧ t''.tagsOf id = known ∧
      t''.tags = t'.tags := by
  have hmem : ∀ n ∈ known, ∃ g ∈ t'.tags, g.name = n := by
    intro n hn
    rw [← h.shown] at hn
    obtain ⟨g, hg, rfl⟩ := List.mem_map.mp hn
    exact ⟨g, mem_sortBy.mp (List.mem_of_mem_filter hg), rfl⟩
  have hspelled : ∀ n ∈ known, t'.spelling (Tag.key n) = some n := by
    intro n hn
    obtain ⟨g, hg, rfl⟩ := hmem n hn
    exact ht'.spelling_of_mem hg
  have hnormal : Tag.normalize known = known := by
    refine Tag.normalize_of_isNormal ?_ h.increasing
    intro n hn
    obtain ⟨g, hg, rfl⟩ := hmem n hn
    exact (ht'.normal g hg).1
  have hkeys : (known.map Tag.key).Nodup := hnormal ▸ Tag.keys_nodup_normalize known
  -- all of them are known by now, so none can be refused
  have hfresh : (t'.untag id).fresh known = [] := by
    refine List.filter_eq_nil_iff.mpr ?_
    intro n hn
    have hsome : (t'.untag id).spelling (Tag.key n) = some n := hspelled n hn
    simp [hsome]
  have hadmits : (t'.untag id).Admits known := ⟨by simp [hfresh], by simp [hfresh]⟩
  obtain ⟨known', t'', hok⟩ := (addTags_iff_admits id hkeys).mpr hadmits
  obtain ⟨added, henters⟩ := enters_of_addTags hkeys hok
  have hsame : known' = known := by
    rw [henters.known]
    refine (List.map_congr_left ?_).trans (List.map_id known)
    intro n hn
    have hsome : (t'.untag id).spelling (Tag.key n) = some n := hspelled n hn
    simp [spell, hsome]
  subst hsame
  have hreplace : t'.replaceTags id known' = .ok (known', t'') := by
    rw [replaceTags, hnormal]
    exact hok
  have hnone : added = [] := by
    have hnames := henters.new_names
    rwa [hfresh, List.map_eq_nil_iff] at hnames
  refine ⟨t'', hreplace, ht'.tagsOf_replaceTags hid hreplace, ?_⟩
  rw [henters.tags, hnone, List.append_nil]
  rfl

theorem admits_untag : (t.untag id).Admits names ↔ t.Admits names :=
  admits_of_tags rfl

theorem admits_insert {r : Row} {payload : Bytes} :
    (t.insert r payload).Admits names ↔ t.Admits names :=
  admits_of_tags rfl

theorem replaceTags_iff_admits (id : String) :
    (∃ known t', t.replaceTags id names = .ok (known, t')) ↔ t.Admits (Tag.normalize names) :=
  (addTags_iff_admits id (Tag.keys_nodup_normalize names)).trans admits_untag

theorem replaceTags_of_not_admits (id : String) (h : ¬ t.Admits (Tag.normalize names)) :
    ∃ n, t.replaceTags id names = .error (.tagTaken n) := by
  cases htags : t.replaceTags id names with
  | error why =>
    obtain ⟨n, rfl⟩ := addTags_error htags
    exact ⟨n, rfl⟩
  | ok p => exact absurd ((replaceTags_iff_admits id).mp ⟨p.1, p.2, htags⟩) h

theorem Retags.of_insert {r : Row} {payload : Bytes}
    (h : (t.insert r payload).Retags t' id names known) : t.Retags t' id names known where
  shown := h.shown
  increasing := h.increasing
  keys := h.keys
  spelled := h.spelled
  grown := h.grown
  others := h.others

end Tables

namespace Mailbox

structure Gives (m m' : Mailbox) (id : String) (names known : List String) : Prop where
  retags : m.tables.Retags m'.tables id names known
  tags : ∀ now, (m'.tags now id).1 = .ok known
  views : ∀ now, ∃ s, m'.Views now id s ∧ s.tags = known
  again : ∀ now, ∃ m'', m'.setTags now id known = (.ok known, m'') ∧
    (∀ later, (m''.tags later id).1 = .ok known) ∧ m''.allTags.1 = m'.allTags.1

variable {m m' : Mailbox} {id : String} {names known : List String}

section Open

variable (hopen : m.closed = false)

include hopen

theorem setTags_of_row (now : Instant) {r : Row} (hrow : m.tables.row? id = some r)
    (names : List String) : m.setTags now id names =
      match m.tables.replaceTags id names with
      | .error why => (.error why, m.touch now)
      | .ok (known, t) => (.ok known, { m.touch now with tables := t }.announceStats now) := by
  rcases setTags_cases hopen now id names with
    ⟨hnone, -⟩ | ⟨r', why, -, htags, heq⟩ | ⟨r', known, t, -, htags, heq⟩
  · rw [hnone] at hrow
    cases hrow
  · rw [heq, htags]
  · rw [heq, htags]

theorem store_of_parse (now : Instant) {raw : Bytes} {e : Envelope}
    (hparse : Envelope.parse raw = .ok e) (hfree : m.tables.isTaken id = false) :
    m.store now id raw =
      match (m.tables.insert (rowOf id (createdAt m.config.storage now e) raw e)
        (Zstd.compress raw)).replaceTags id (m.arrivalTags raw e) with
      | .error why => (.error why, m.touch now)
      | .ok (known, t) => (.ok id, (m.touch now).receive now
          (arrivalSummary id (createdAt m.config.storage now e) raw e known) t) := by
  have hinsert : m.insertMessage id (createdAt m.config.storage now e) raw e =
      (m.tables.insert (rowOf id (createdAt m.config.storage now e) raw e)
        (Zstd.compress raw)).replaceTags id (m.arrivalTags raw e) := by
    rw [insertMessage, hfree]
    rfl
  rcases store_cases hopen now id raw with
    ⟨why, herror, -⟩ | ⟨e', why, hparse', htags, heq⟩ | ⟨e', known, t, hparse', htags, heq⟩
  · rw [hparse] at herror
    cases herror
  · obtain rfl := Except.ok.inj (hparse.symm.trans hparse')
    rw [heq, ← hinsert, htags]
  · obtain rfl := Except.ok.inj (hparse.symm.trans hparse')
    rw [heq, ← hinsert, htags]

theorem gives_of_retags (hsound : m.tables.Sound) {before : Mailbox}
    (hid : id ∈ m.tables.messages.map Row.id)
    (h : before.tables.Retags m.tables id names known) : before.Gives m id names known := by
  obtain ⟨r, hr, rfl⟩ := List.mem_map.mp hid
  have hrow := hsound.shelved.row?_of_mem hr
  constructor
  case retags => exact h
  case tags =>
    intro now
    rw [tags, look_of_open hopen, h.shown]
  case views =>
    intro now
    obtain ⟨s, hs, hshows⟩ := hsound.shelved.exists_shows hr
    exact ⟨s, views_of_row? hopen hsound hrow hs now, hshows.tags.trans h.shown⟩
  case again =>
    intro now
    obtain ⟨t, htags, hshown, hvocabulary⟩ := h.again hsound.tagged hid
    have heq := setTags_of_row hopen now hrow known
    simp only [htags] at heq
    have hleads := leadsTo_setTags hopen now r.id known
    rw [heq] at hleads
    have hclosed := hleads.closed.trans hopen
    refine ⟨_, heq, ?_, ?_⟩
    · intro later
      rw [tags, look_of_open hclosed, announceStats_tables, hshown]
    · rw [allTags, allTags, ask_of_open hclosed, ask_of_open hopen, announceStats_tables,
        Tables.vocabulary, Tables.sortedTags, hvocabulary]
      rfl

theorem gives_setTags (hsound : m.tables.Sound) (now : Instant)
    (hrow : (m.tables.row? id).isSome = true) (hadmits : m.tables.Admits (Tag.normalize names)) :
    ∃ known, (m.setTags now id names).1 = .ok known ∧
      m.Gives (m.setTags now id names).2 id names known := by
  obtain ⟨r, hsome⟩ := Option.isSome_iff_exists.mp hrow
  obtain ⟨known, t, htags⟩ := (Tables.replaceTags_iff_admits id).mpr hadmits
  have heq := setTags_of_row hopen now hsome names
  simp only [htags] at heq
  obtain ⟨hr, rfl⟩ := Tables.mem_of_row? hsome
  have hid : r.id ∈ m.tables.messages.map Row.id := List.mem_map_of_mem hr
  have hleads := leadsTo_setTags hopen now r.id names
  rw [heq] at hleads ⊢
  refine ⟨known, rfl, gives_of_retags (hleads.closed.trans hopen)
    (hleads.changes.sound hsound) ?_ ?_⟩
  · rw [announceStats_tables, (Tables.replaceTags_messages htags).1]
    exact hid
  · rw [announceStats_tables]
    exact hsound.tagged.retags hid htags

theorem setTags_of_not_admits (now : Instant) (hrow : (m.tables.row? id).isSome = true)
    (hadmits : ¬ m.tables.Admits (Tag.normalize names)) :
    ∃ n, m.setTags now id names = (.error (.tagTaken n), m.touch now) := by
  obtain ⟨r, hsome⟩ := Option.isSome_iff_exists.mp hrow
  obtain ⟨n, htags⟩ := Tables.replaceTags_of_not_admits id hadmits
  exact ⟨n, by rw [setTags_of_row hopen now hsome, htags]⟩

section Store

variable {now : Instant} {raw : Bytes} {e : Envelope} (hparse : Envelope.parse raw = .ok e)
  (hfree : m.tables.isTaken id = false)

include hparse hfree

theorem gives_store (hsound : m.tables.Sound) (hnow : now.isDated = true)
    (hadmits : m.tables.Admits (Tag.normalize (m.arrivalTags raw e))) :
    (m.store now id raw).1 = .ok id ∧
      ∃ known, m.Gives (m.store now id raw).2 id (m.arrivalTags raw e) known := by
  have hinserted : (m.tables.insert (rowOf id (createdAt m.config.storage now e) raw e)
      (Zstd.compress raw)).Admits (Tag.normalize (m.arrivalTags raw e)) :=
    Tables.admits_insert.mpr hadmits
  obtain ⟨known, t, htags⟩ := (Tables.replaceTags_iff_admits id).mpr hinserted
  have heq := store_of_parse hopen now hparse hfree
  simp only [htags] at heq
  have hleads := leadsTo_store hopen hnow id raw
  obtain ⟨m', hreceive, rfl, -, -⟩ := receive_eq (m.touch now) now
    (arrivalSummary id (createdAt m.config.storage now e) raw e known) t
  rw [heq] at hleads ⊢
  rw [hreceive] at hleads ⊢
  refine ⟨rfl, known, gives_of_retags (hleads.closed.trans hopen)
    (hleads.changes.sound hsound) ?_ ?_⟩
  · rw [announceStats_tables, (Tables.replaceTags_messages htags).1]
    exact List.mem_cons_self
  · rw [announceStats_tables]
    exact ((hsound.tagged.insert _ _).retags List.mem_cons_self htags).of_insert

theorem store_of_not_admits (hadmits : ¬ m.tables.Admits (Tag.normalize (m.arrivalTags raw e))) :
    ∃ n, m.store now id raw = (.error (.tagTaken n), m.touch now) := by
  have hinserted : ¬ (m.tables.insert (rowOf id (createdAt m.config.storage now e) raw e)
      (Zstd.compress raw)).Admits (Tag.normalize (m.arrivalTags raw e)) :=
    mt Tables.admits_insert.mp hadmits
  obtain ⟨n, htags⟩ := Tables.replaceTags_of_not_admits id hinserted
  exact ⟨n, by rw [store_of_parse hopen now hparse hfree, htags]⟩

end Store

end Open

structure Retags (m : Mailbox) : Prop where
  set : ∀ now id names, (m.tables.row? id).isSome = true → m.tables.Admits (Tag.normalize names) →
    ∃ known, (m.setTags now id names).1 = .ok known ∧
      m.Gives (m.setTags now id names).2 id names known
  not_set : ∀ now id names, (m.tables.row? id).isSome = true →
    ¬ m.tables.Admits (Tag.normalize names) →
      ∃ n, m.setTags now id names = (.error (.tagTaken n), m.touch now)
  stored : ∀ now id raw e, now.isDated = true → Envelope.parse raw = .ok e →
    m.tables.isTaken id = false → m.tables.Admits (Tag.normalize (m.arrivalTags raw e)) →
      (m.store now id raw).1 = .ok id ∧
        ∃ known, m.Gives (m.store now id raw).2 id (m.arrivalTags raw e) known
  not_stored : ∀ now id raw e, Envelope.parse raw = .ok e → m.tables.isTaken id = false →
    ¬ m.tables.Admits (Tag.normalize (m.arrivalTags raw e)) →
      ∃ n, m.store now id raw = (.error (.tagTaken n), m.touch now)
  whole : ∀ names, (∀ n ∈ names, Wildcard.IsWhole n.toList) →
    m.tables.Admits (Tag.normalize names)

theorem tags_run {t : Tables} (ht : t.Reached) {config : Config} {webhook : Bool}
    {start : Instant} {m : Mailbox} (hopen : open? config t webhook start = .ok m)
    (requests : List Request) : (m.run requests).Retags := by
  have hsound := (Tables.Reached.session ht hopen requests).sound
  have hclosed := closed_run hopen requests
  constructor
  case set =>
    intro now id names hrow hadmits
    exact gives_setTags hclosed hsound now hrow hadmits
  case not_set =>
    intro now id names hrow hadmits
    exact setTags_of_not_admits hclosed now hrow hadmits
  case stored =>
    intro now id raw e hnow hparse hfree hadmits
    exact gives_store hclosed hparse hfree hsound hnow hadmits
  case not_stored =>
    intro now id raw e hparse hfree hadmits
    exact store_of_not_admits hclosed hparse hfree hadmits
  case whole =>
    intro names hnames
    exact hsound.tagged.admits_of_isWhole (Tag.keys_nodup_normalize names)
      fun n hn => Tag.isWhole_of_mem_normalize hnames hn

theorem tags_run_first_seen :
    let m := ({ config := {}, rules := ⟨[]⟩ } : Mailbox).run
      [⟨⟨1, 0⟩, .store "a" [70, 58, 32, 120, 10, 10], by decide⟩]
    let names := [" Work  log ", "work LOG", " "]
    m.Retags ∧ m.Gives (m.setTags ⟨2, 0⟩ "a" names).2 "a" names ["Work log"] := by
  intro m names
  have hopen : open? {} {} false ⟨0, 0⟩ = .ok { config := {}, rules := ⟨[]⟩ } := rfl
  have hretags : m.Retags := tags_run .empty hopen _
  obtain ⟨known, hanswer, hgives⟩ := hretags.set ⟨2, 0⟩ "a" names (by decide +kernel)
    (hretags.whole names (by decide))
  have hknown : (m.setTags ⟨2, 0⟩ "a" names).1 = .ok ["Work log"] := by decide +kernel
  rw [hanswer, Except.ok.injEq] at hknown
  exact ⟨hretags, hknown ▸ hgives⟩

theorem tags_run_nul :
    let m := ({ config := {}, rules := ⟨[]⟩ } : Mailbox).run
      [⟨⟨1, 0⟩, .store "a" [70, 58, 32, 120, 10, 10], by decide⟩,
       ⟨⟨2, 0⟩, .setTags "a" ["a\x00b"], by decide⟩]
    m.allTags.1 = .ok ["a\x00b"] ∧ Tag.key "a\x00c" ≠ Tag.key "a\x00b" ∧
      (m.setTags ⟨3, 0⟩ "a" ["a\x00c"]).1 = .error (.tagTaken "a\x00c") :=
  ⟨by decide +kernel, by decide +kernel, by decide +kernel⟩

structure CreatesTags (m : Mailbox) : Prop where
  created : ∀ name, Tag.key name ∉ m.tables.tags.map TagRow.key →
    (∀ g ∈ m.tables.tags, ¬ Tables.Clash name g.name) →
      (∀ g ∈ m.tables.tags, Tables.sameName name g.name = false) ∧
      ∃ tag t, m.tables.ensureTag name = .ok (tag, t) ∧ tag.name = name ∧
        tag.key = Tag.key name ∧ t.tags = m.tables.tags ++ [tag]
  refused : ∀ name why, m.tables.ensureTag name = .error why →
    why = .tagTaken name ∧ ∃ g ∈ m.tables.tags, Tables.Clash name g.name
  set : ∀ now id names n, (m.setTags now id names).1 = .error (.tagTaken n) →
    n ∈ Tag.normalize names ∧
      ∃ rival ∈ m.tables.tags.map TagRow.name ++ Tag.normalize names, Tables.Clash n rival
  stored : ∀ now id raw n, (m.store now id raw).1 = .error (.tagTaken n) →
    ∃ e, Envelope.parse raw = .ok e ∧ n ∈ Tag.normalize (m.arrivalTags raw e) ∧
      ∃ rival ∈ m.tables.tags.map TagRow.name ++ Tag.normalize (m.arrivalTags raw e),
        Tables.Clash n rival
  set_whole : ∀ now id names, (∀ n ∈ names, Wildcard.IsWhole n.toList) →
    ∀ n, (m.setTags now id names).1 ≠ .error (.tagTaken n)
  stored_whole : ∀ now id raw e, Envelope.parse raw = .ok e →
    (∀ n ∈ m.arrivalTags raw e, Wildcard.IsWhole n.toList) →
      ∀ n, (m.store now id raw).1 ≠ .error (.tagTaken n)

section Created

variable (hopen : m.closed = false) (hkeys : ∀ g ∈ m.tables.tags, g.key = Tag.key g.name)

include hopen hkeys

theorem clash_of_setTags {now : Instant} {n : String}
    (h : (m.setTags now id names).1 = .error (.tagTaken n)) :
    n ∈ Tag.normalize names ∧
      ∃ rival ∈ m.tables.tags.map TagRow.name ++ Tag.normalize names, Tables.Clash n rival := by
  rcases setTags_cases hopen now id names with
    ⟨-, heq⟩ | ⟨r, why, -, htags, heq⟩ | ⟨r, known, t, -, -, heq⟩
  · rw [heq] at h
    cases h
  · rw [heq, Except.error.injEq] at h
    subst h
    exact Tables.clash_of_addTags (t := m.tables.untag id) hkeys htags
  · rw [heq] at h
    cases h

theorem clash_of_store {now : Instant} {raw : Bytes} {n : String}
    (h : (m.store now id raw).1 = .error (.tagTaken n)) :
    ∃ e, Envelope.parse raw = .ok e ∧ n ∈ Tag.normalize (m.arrivalTags raw e) ∧
      ∃ rival ∈ m.tables.tags.map TagRow.name ++ Tag.normalize (m.arrivalTags raw e),
        Tables.Clash n rival := by
  rcases store_cases hopen now id raw with
    ⟨why, -, heq⟩ | ⟨e, why, hparse, hinsert, heq⟩ | ⟨e, known, t, -, -, heq⟩
  · rw [heq] at h
    cases h
  · rw [heq, Except.error.injEq] at h
    subst h
    unfold insertMessage at hinsert
    split at hinsert
    · cases hinsert
    · let inserted := m.tables.insert (rowOf id (createdAt m.config.storage now e) raw e)
        (Zstd.compress raw)
      exact ⟨e, hparse, Tables.clash_of_addTags (t := inserted.untag id) hkeys hinsert⟩
  · rw [heq] at h
    cases h

end Created

theorem creation_run {t : Tables} (ht : t.Reached) {config : Config} {webhook : Bool}
    {start : Instant} {m : Mailbox} (hopen : open? config t webhook start = .ok m)
    (requests : List Request) :
    (∀ a b : String, sameAscii a.toList b.toList = true →
      Tables.sameName a b = true ∧ Tag.key a = Tag.key b) ∧
    (∀ a b, Tables.Clash a b →
      ¬ Wildcard.IsWhole a.toList ∧ ¬ Wildcard.IsWhole b.toList) ∧
    (m.run requests).CreatesTags := by
  have hclosed := closed_run hopen requests
  have hkeys : ∀ g ∈ (m.run requests).tables.tags, g.key = Tag.key g.name := by
    intro g hg
    exact ((Tables.Reached.session ht hopen requests).sound.tagged.normal g hg).2
  refine ⟨?_, fun a b h => h.not_isWhole, ?_⟩
  · intro a b h
    exact ⟨Tables.sameName_of_sameAscii h, by rw [Tag.key, Tag.key, lower_eq_of_sameAscii h]⟩
  constructor
  case created => exact fun name hnew hapart => Tables.ensureTag_of_not_clash hkeys hnew hapart
  case refused => exact fun name why h => Tables.clash_of_ensureTag hkeys h
  case set => exact fun now id names n h => clash_of_setTags hclosed hkeys h
  case stored => exact fun now id raw n h => clash_of_store hclosed hkeys h
  case set_whole =>
    intro now id names hnames n h
    obtain ⟨hn, rival, -, hclash⟩ := clash_of_setTags hclosed hkeys h
    exact hclash.not_isWhole.1 (Tag.isWhole_of_mem_normalize hnames hn)
  case stored_whole =>
    intro now id raw e hparse hnames n h
    obtain ⟨e', hparse', hn, rival, -, hclash⟩ := clash_of_store hclosed hkeys h
    obtain rfl := Except.ok.inj (hparse.symm.trans hparse')
    exact hclash.not_isWhole.1 (Tag.isWhole_of_mem_normalize hnames hn)

theorem creation_run_beside :
    let m := ({ config := {}, rules := ⟨[]⟩ } : Mailbox).run
      [⟨⟨1, 0⟩, .store "a" [70, 58, 32, 120, 10, 10], by decide⟩,
       ⟨⟨2, 0⟩, .setTags "a" ["Ärger log"], by decide⟩]
    Tag.key "ärger LOG" = Tag.key "ärger log" ∧
      (∃ tag t, m.tables.ensureTag "ÄRGER" = .ok (tag, t) ∧ t.tags = m.tables.tags ++ [tag]) ∧
      ∀ n, (m.setTags ⟨3, 0⟩ "a" ["ärger LOG", "ÄRGER"]).1 ≠ .error (.tagTaken n) := by
  intro m
  have hopen : open? {} {} false ⟨0, 0⟩ = .ok { config := {}, rules := ⟨[]⟩ } := rfl
  obtain ⟨hcase, hnul, hcreates⟩ := creation_run .empty hopen
    [⟨⟨1, 0⟩, .store "a" [70, 58, 32, 120, 10, 10], by decide⟩,
     ⟨⟨2, 0⟩, .setTags "a" ["Ärger log"], by decide⟩]
  refine ⟨(hcase _ _ (by decide)).2, ?_, hcreates.set_whole _ _ _ (by decide)⟩
  obtain ⟨-, tag, t, hok, -, -, htags⟩ := hcreates.created "ÄRGER" (by decide +kernel)
    fun g _ hclash => (hnul _ _ hclash).1 (by decide)
  exact ⟨tag, t, hok, htags⟩

theorem creation_run_nul :
    let m := ({ config := {}, rules := ⟨[]⟩ } : Mailbox).run
      [⟨⟨1, 0⟩, .store "a" [70, 58, 32, 120, 10, 10], by decide⟩,
       ⟨⟨2, 0⟩, .setTags "a" ["a\x00b"], by decide⟩]
    Tag.key "A\x00c" ∉ m.tables.tags.map TagRow.key ∧
      (m.tables.tags.any fun g => Tables.sameName "A\x00c" g.name) = true ∧
      (m.setTags ⟨3, 0⟩ "a" ["A\x00c"]).1 = .error (.tagTaken "A\x00c") ∧
      (m.store ⟨3, 0⟩ "b" (encode "X-Tags: a\x00d\n\n".toList)).1 = .error (.tagTaken "a\x00d") :=
  ⟨by decide +kernel, by decide +kernel, by decide +kernel, by decide +kernel⟩

end Mailbox

end Letterbox
