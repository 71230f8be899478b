import Letterbox.Proofs.Mailbox.Announcements
import Letterbox.Proofs.Mailbox.Bulk
import Letterbox.Proofs.Mailbox.Tagging

namespace Letterbox

def isShown (l : List Summary) (name : String) : Bool :=
  l.any fun s => s.tags.contains name

theorem isShown_iff {l : List Summary} {name : String} :
    isShown l name = true ↔ ∃ s ∈ l, name ∈ s.tags := by
  simp [isShown]

namespace Tables

def isLinked (t : Tables) (g : TagRow) : Bool :=
  t.links.any fun l => l.2 == g.number

variable {t : Tables}

theorem pruneTags_tags (t : Tables) : t.pruneTags.tags = t.tags.filter t.isLinked :=
  rfl

theorem pruneTags_eq_of_tags {tags : List TagRow} (h : t.pruneTags.tags = tags) :
    t.pruneTags = { t with tags } :=
  congrArg (fun tags => ({ t with tags } : Tables)) h

theorem pruneTags_pruneTags (t : Tables) : t.pruneTags.pruneTags = t.pruneTags := by
  have hsame : t.pruneTags.pruneTags.tags = t.pruneTags.tags := by
    rw [pruneTags_tags, pruneTags_tags, List.filter_filter]
    exact List.filter_congr fun g _ => Bool.and_self (t.isLinked g)
  exact pruneTags_eq_of_tags hsame

theorem pruneTags_of_length (h : t.tags.length ≤ t.pruneTags.tags.length) : t.pruneTags = t := by
  have hall : t.pruneTags.tags = t.tags := List.filter_sublist.eq_of_length_le h
  exact pruneTags_eq_of_tags hall

theorem sortedTags_perm (t : Tables) : t.sortedTags.Perm t.tags :=
  Text.sortBy_perm _ t.tags

theorem length_vocabulary (t : Tables) : t.vocabulary.length = t.tags.length := by
  rw [vocabulary, List.length_map, t.sortedTags_perm.length_eq]

theorem Tagged.sortedTags_pruneTags (ht : t.Tagged) :
    t.pruneTags.sortedTags = t.sortedTags.filter t.isLinked := by
  refine Text.eq_of_strict ht.pruneTags.pairwise_sortedTags (ht.pairwise_sortedTags.filter _) ?_
  intro g
  rw [t.pruneTags.sortedTags_perm.mem_iff, pruneTags_tags, List.mem_filter, List.mem_filter,
    t.sortedTags_perm.mem_iff]

theorem Tagged.tagsOf_pruneTags (ht : t.Tagged) (id : String) :
    t.pruneTags.tagsOf id = t.tagsOf id :=
  (ht.pruneTags.tagsOf_of_links ht List.filter_sublist.subset fun _ => Iff.rfl).symm

theorem Tagged.mem_tagsOf (ht : t.Tagged) {g : TagRow} (hg : g ∈ t.tags) (id : String) :
    g.name ∈ t.tagsOf id ↔ (id, g.number) ∈ t.links := by
  rw [tagsOf, List.mem_map]
  constructor
  · rintro ⟨k, hk, hname⟩
    rw [List.mem_filter, t.sortedTags_perm.mem_iff, carries, List.contains_iff_mem] at hk
    have hkey : k.key = g.key := by rw [(ht.normal k hk.1).2, (ht.normal g hg).2, hname]
    exact List.inj_on_of_nodup_map ht.keys_nodup hk.1 hg hkey ▸ hk.2
  · intro hlink
    refine ⟨g, List.mem_filter.mpr ⟨t.sortedTags_perm.mem_iff.mpr hg, ?_⟩, rfl⟩
    rw [carries, List.contains_iff_mem]
    exact hlink

theorem Sound.summaries_pruneTags (ht : t.Sound) :
    t.pruneTags.summaries t.newestFirst = t.summaries t.newestFirst := by
  refine List.filterMap_congr ?_
  intro r _
  rw [summary?, ht.tagged.tagsOf_pruneTags]
  rfl

theorem Sound.isLinked_eq (ht : t.Sound) {g : TagRow} (hg : g ∈ t.tags) :
    t.isLinked g = isShown (t.summaries t.newestFirst) g.name := by
  rw [Bool.eq_iff_iff, isLinked, List.any_eq_true, isShown_iff]
  constructor
  · rintro ⟨⟨id, number⟩, hlink, hnumber⟩
    rw [beq_iff_eq] at hnumber
    obtain ⟨r, hr, hid⟩ := List.mem_map.mp (ht.tagged.links_message _ hlink)
    obtain ⟨s, hs, hshows⟩ := ht.shelved.exists_shows hr
    refine ⟨s, mem_summaries_newestFirst.mpr ⟨r, hr, hs⟩, ?_⟩
    rw [hshows.tags, hid, ht.tagged.mem_tagsOf hg, ← hnumber]
    exact hlink
  · rintro ⟨s, hs, hname⟩
    obtain ⟨r, -, hrs⟩ := mem_summaries_newestFirst.mp hs
    rw [summary?_tags hrs, ht.tagged.mem_tagsOf hg] at hname
    exact ⟨_, hname, beq_self_eq_true g.number⟩

theorem Sound.vocabulary_pruneTags (ht : t.Sound) :
    t.pruneTags.vocabulary = t.vocabulary.filter (isShown (t.summaries t.newestFirst)) := by
  rw [vocabulary, vocabulary, ht.tagged.sortedTags_pruneTags, List.filter_map]
  refine congrArg _ (List.filter_congr ?_)
  intro g hg
  exact ht.isLinked_eq (t.sortedTags_perm.mem_iff.mp hg)

theorem Sound.length_pruneTags (ht : t.Sound) : t.tags.length - t.pruneTags.tags.length =
    (t.vocabulary.filter fun n => !isShown (t.summaries t.newestFirst) n).length := by
  have hsplit := List.length_eq_length_filter_add (l := t.vocabulary)
    (isShown (t.summaries t.newestFirst))
  rw [← t.length_vocabulary, ← t.pruneTags.length_vocabulary, ht.vocabulary_pruneTags]
  omega

theorem Sound.pruneTags_remove_all (ht : t.Sound) {ids : List String}
    (h : ∀ id ∈ t.messages.map Row.id, id ∈ ids) : (t.remove ids).pruneTags = t.clear := by
  have hmessages : (t.remove ids).messages = [] := by
    refine List.filter_eq_nil_iff.mpr ?_
    intro r hr
    have hid := h r.id (List.mem_map_of_mem hr)
    simpa using hid
  have hpayloads : (t.remove ids).payloads = [] := by
    refine List.filter_eq_nil_iff.mpr ?_
    intro p hp
    have hid := h p.1 (ht.shelved.payload_ids ▸ List.mem_map_of_mem hp)
    simpa using hid
  have hlinks : (t.remove ids).links = [] := by
    refine List.filter_eq_nil_iff.mpr ?_
    intro l hl
    have hid := h l.1 (ht.tagged.links_message l hl)
    simpa using hid
  have htags : (t.remove ids).pruneTags.tags = [] := by
    rw [pruneTags_tags]
    refine List.filter_eq_nil_iff.mpr ?_
    intro g _
    simp [isLinked, hlinks]
  rw [pruneTags_eq_of_tags htags, hmessages, hpayloads, hlinks]
  rfl

end Tables

namespace Mailbox

variable {m : Mailbox}

structure PrunesTags (m : Mailbox) (now : Instant) (l : List Summary) (vocabulary : List String) :
    Prop where
  listed : ∀ limit : UInt64, Tables.signedBound ≤ limit.toNat → (m.list now 0 limit).1 = .ok l
  known : m.allTags.1 = .ok vocabulary
  answer : (m.pruneTags now).1 =
    .ok (vocabulary.filter fun name => !isShown l name).length.toUInt64
  left : (m.pruneTags now).2.allTags.1 = .ok (vocabulary.filter (isShown l))
  shown : ∀ name, name ∈ vocabulary.filter (isShown l) ↔ ∃ s ∈ l, name ∈ s.tags
  increasing : (vocabulary.filter (isShown l)).Pairwise fun a b =>
    (Tag.key a).toList < (Tag.key b).toList
  messages : (m.pruneTags now).2.tables.messages = m.tables.messages ∧
    (m.pruneTags now).2.tables.payloads = m.tables.payloads
  tags : ∀ id later, ((m.pruneTags now).2.tags later id).1 = (m.tags later id).1
  relisted : ∀ later (limit : UInt64), Tables.signedBound ≤ limit.toNat →
    ((m.pruneTags now).2.list later 0 limit).1 = .ok l
  told : (m.pruneTags now).2.notices = m.notices ++
    if (vocabulary.filter fun name => !isShown l name) = [] then []
    else [.event (.stats (m.pruneTags now).2.tables.stats)]
  again : ∀ later, (m.pruneTags now).2.pruneTags later = (.ok 0, (m.pruneTags now).2.touch later)
  emptied : ∀ earlier ids, (∀ s ∈ l, s.id ∈ ids) →
    ((m.deleteMany earlier ids).2.pruneTags now).2.tables = (m.deleteAll now).2.tables

theorem tables_pruneTags (hopen : m.closed = false) (now : Instant) :
    (m.pruneTags now).2.tables = m.tables.pruneTags := by
  rw [pruneTags_of_open hopen]
  by_cases hnone : m.tables.tags.length ≤ m.tables.pruneTags.tags.length
  · rw [if_neg (by omega), Tables.pruneTags_of_length hnone, touch_tables]
  · rw [if_pos (by omega), announceStats_tables]

theorem pruneTags_of_pruned (hopen : m.closed = false) (h : m.tables.pruneTags = m.tables)
    (now : Instant) : m.pruneTags now = (.ok 0, m.touch now) := by
  rw [pruneTags_of_open hopen, h, Nat.sub_self, if_neg (Nat.lt_irrefl 0)]
  rfl

theorem notices_pruneTags (hopen : m.closed = false) (now : Instant) :
    (m.pruneTags now).2.notices = m.notices ++
      if m.tables.tags.length - m.tables.pruneTags.tags.length = 0 then []
      else [.event (.stats m.tables.pruneTags.stats)] := by
  rw [pruneTags_of_open hopen]
  by_cases hnone : m.tables.tags.length - m.tables.pruneTags.tags.length = 0
  · rw [if_pos hnone, if_neg (by omega), List.append_nil, touch_notices]
  · have hopen' : { m.touch now with tables := m.tables.pruneTags }.closed = false := hopen
    rw [if_neg hnone, if_pos (by omega), announceStats_of_open hopen']
    rfl

theorem prunesTags (hopen : m.closed = false) (hsound : m.tables.Sound) (now : Instant) :
    ∃ l vocabulary, m.PrunesTags now l vocabulary := by
  have hclosed := (leadsTo_pruneTags hopen now).closed.trans hopen
  have htables := tables_pruneTags hopen now
  have hlisted {l : List Summary} (hl : m.tables.summaries m.tables.newestFirst = l) :
      m.tables.pruneTags.summaries m.tables.pruneTags.newestFirst = l :=
    hsound.summaries_pruneTags.trans hl
  refine ⟨m.tables.summaries m.tables.newestFirst, m.tables.vocabulary, ?_⟩
  constructor
  case listed =>
    intro limit hlimit
    rw [list, look_of_open hopen, Tables.list_unlimited _ hlimit]
  case known => rw [allTags, ask_of_open hopen]
  case answer => rw [pruneTags_of_open hopen, hsound.length_pruneTags]
  case left => rw [allTags, ask_of_open hclosed, htables, hsound.vocabulary_pruneTags]
  case shown =>
    intro name
    rw [List.mem_filter, isShown_iff, and_iff_right_iff_imp]
    rintro ⟨s, hs, hname⟩
    obtain ⟨r, -, hrs⟩ := Tables.mem_summaries_newestFirst.mp hs
    exact Tables.mem_vocabulary_of_mem_tagsOf (Tables.summary?_tags hrs ▸ hname)
  case increasing => exact hsound.tagged.pairwise_vocabulary.filter _
  case messages => rw [htables]; exact ⟨rfl, rfl⟩
  case tags =>
    intro id later
    rw [tags, tags, look_of_open hclosed, look_of_open hopen, htables,
      hsound.tagged.tagsOf_pruneTags]
  case relisted =>
    intro later limit hlimit
    rw [list, look_of_open hclosed, htables, Tables.list_unlimited _ hlimit, hlisted rfl]
  case told =>
    rw [notices_pruneTags hopen, hsound.length_pruneTags, htables]
    simp only [List.length_eq_zero_iff]
  case again =>
    intro later
    refine pruneTags_of_pruned hclosed ?_ later
    rw [htables, Tables.pruneTags_pruneTags]
  case emptied =>
    intro earlier ids hids
    have hopen' := (closed_deleteMany m earlier ids).trans hopen
    rw [tables_pruneTags hopen', tables_deleteMany hopen, tables_deleteAll hopen]
    refine hsound.pruneTags_remove_all ?_
    intro id hid
    obtain ⟨s, hs, rfl⟩ := List.mem_map.mp (hsound.shelved.ids_perm.mem_iff.mpr hid)
    exact hids s hs

theorem pruneTags_run {t : Tables} (ht : t.Reached) {config : Config} {webhook : Bool}
    {start : Instant} {m : Mailbox} (hopen : open? config t webhook start = .ok m)
    (requests : List Request) (now : Instant) :
    ∃ l vocabulary, (m.run requests).PrunesTags now l vocabulary := by
  have hsound := (Tables.Reached.session ht hopen requests).sound
  exact prunesTags (closed_run hopen requests) hsound now

theorem pruneTags_run_replaced :
    let m := ({ config := {}, rules := ⟨[]⟩ } : Mailbox).run
      [⟨⟨1, 0⟩, .store "a" [70, 58, 32, 120, 10, 10], by decide⟩,
       ⟨⟨2, 0⟩, .setTags "a" ["old"], by decide⟩,
       ⟨⟨3, 0⟩, .setTags "a" ["new"], by decide⟩]
    (∃ l vocabulary, m.PrunesTags ⟨4, 0⟩ l vocabulary) ∧ (m.pruneTags ⟨4, 0⟩).1 = .ok 1 ∧
      (m.pruneTags ⟨4, 0⟩).2.allTags.1 = .ok ["new"] :=
  have hopen : open? {} {} false ⟨0, 0⟩ = .ok { config := {}, rules := ⟨[]⟩ } := rfl
  ⟨pruneTags_run .empty hopen _ _, by decide +kernel, by decide +kernel⟩

end Mailbox

end Letterbox
