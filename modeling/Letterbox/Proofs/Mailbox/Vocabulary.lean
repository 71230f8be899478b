import Letterbox.Mailbox.Tables
import Letterbox.Proofs.Mailbox.Tag

namespace Letterbox.Tables

structure Tagged (t : Tables) : Prop where
  numbers_nodup : (t.tags.map TagRow.number).Nodup
  numbers_le : ∀ g ∈ t.tags, g.number ≤ t.lastTag
  keys_nodup : (t.tags.map TagRow.key).Nodup
  normal : ∀ g ∈ t.tags, Tag.IsNormal g.name ∧ g.key = Tag.key g.name
  links_nodup : t.links.Nodup
  links_message : ∀ l ∈ t.links, l.1 ∈ t.messages.map Row.id
  links_tag : ∀ l ∈ t.links, l.2 ∈ t.tags.map TagRow.number

theorem tagged_empty : Tagged {} := by
  constructor <;> simp

theorem Tagged.pairwise_sortedTags {t : Tables} (ht : t.Tagged) :
    t.sortedTags.Pairwise fun a b => a.key.toList < b.key.toList :=
  Text.sortBy_strict (fun g : TagRow => g.key.toList) t.tags (Text.nodup_toList ht.keys_nodup)

theorem ensureTag_cases {t t' : Tables} {name : String} {g : TagRow}
    (h : t.ensureTag name = .ok (g, t')) :
    (g ∈ t.tags ∧ g.key = Tag.key name ∧ t' = t) ∨
      (Tag.key name ∉ t.tags.map TagRow.key ∧
        g = { number := t.lastTag + 1, name := name, key := Tag.key name } ∧
        t' = { t with tags := t.tags ++ [g], lastTag := t.lastTag + 1 }) := by
  unfold ensureTag at h
  split at h
  · rename_i known hfind
    cases h
    have hkey := List.find?_some hfind
    exact Or.inl ⟨List.mem_of_find?_eq_some hfind, by simpa using hkey, rfl⟩
  · rename_i hfind
    split at h
    · cases h
    · cases h
      refine Or.inr ⟨?_, rfl, rfl⟩
      simpa [List.find?_eq_none] using hfind

theorem addTags_cons {t t' : Tables} {id name : String} {names known : List String}
    (h : t.addTags id (name :: names) = .ok (known, t')) :
    ∃ g t₁ rest, t.ensureTag name = .ok (g, t₁) ∧
      (t₁.link id g.number).addTags id names = .ok (rest, t') ∧ known = g.name :: rest := by
  cases hg : t.ensureTag name with
  | error why => simp [addTags, hg, bind, Except.bind] at h
  | ok p =>
    obtain ⟨g, t₁⟩ := p
    cases hrest : (t₁.link id g.number).addTags id names with
    | error why => simp [addTags, hg, hrest, bind, Except.bind] at h
    | ok q =>
      obtain ⟨rest, t₂⟩ := q
      simp only [addTags, hg, hrest, bind, Except.bind, pure, Except.pure, Except.ok.injEq,
        Prod.mk.injEq] at h
      obtain ⟨rfl, rfl⟩ := h
      exact ⟨g, t₁, rest, rfl, hrest, rfl⟩

theorem link_messages (t : Tables) (id : String) (number : Nat) :
    (t.link id number).messages = t.messages ∧ (t.link id number).payloads = t.payloads ∧
      (t.link id number).tags = t.tags ∧ (t.link id number).lastTag = t.lastTag := by
  unfold link
  split <;> simp

theorem ensureTag_messages {t t' : Tables} {name : String} {g : TagRow}
    (h : t.ensureTag name = .ok (g, t')) :
    t'.messages = t.messages ∧ t'.payloads = t.payloads := by
  rcases ensureTag_cases h with ⟨-, -, rfl⟩ | ⟨-, -, rfl⟩ <;> simp

theorem addTags_messages {t t' : Tables} {id : String} {names known : List String}
    (h : t.addTags id names = .ok (known, t')) :
    t'.messages = t.messages ∧ t'.payloads = t.payloads := by
  induction names generalizing t known with
  | nil =>
    cases h
    exact ⟨rfl, rfl⟩
  | cons name names ih =>
    obtain ⟨g, t₁, rest, hg, hrest, -⟩ := addTags_cons h
    have hensure := ensureTag_messages hg
    have hlink := link_messages t₁ id g.number
    have hafter := ih hrest
    exact ⟨hafter.1.trans (hlink.1.trans hensure.1), hafter.2.trans (hlink.2.1.trans hensure.2)⟩

theorem replaceTags_messages {t t' : Tables} {id : String} {names known : List String}
    (h : t.replaceTags id names = .ok (known, t')) :
    t'.messages = t.messages ∧ t'.payloads = t.payloads :=
  addTags_messages (t := t.untag id) h

theorem Tagged.ensureTag {t t' : Tables} {name : String} {g : TagRow} (ht : t.Tagged)
    (hname : Tag.IsNormal name) (h : t.ensureTag name = .ok (g, t')) :
    t'.Tagged ∧ g ∈ t'.tags := by
  rcases ensureTag_cases h with ⟨hg, -, rfl⟩ | ⟨hnew, rfl, rfl⟩
  · exact ⟨ht, hg⟩
  · have hfresh : t.lastTag + 1 ∉ t.tags.map TagRow.number := by
      simp only [List.mem_map, not_exists, not_and]
      intro k hk hnumber
      have := ht.numbers_le k hk
      omega
    refine ⟨?_, by simp⟩
    constructor
    · simpa [List.nodup_append, not_exists] using ⟨ht.numbers_nodup, by simpa using hfresh⟩
    · intro k hk
      simp only [List.mem_append, List.mem_singleton] at hk
      rcases hk with hk | rfl
      · have := ht.numbers_le k hk
        simp only
        omega
      · simp
    · simpa [List.nodup_append] using ⟨ht.keys_nodup, by simpa using hnew⟩
    · intro k hk
      simp only [List.mem_append, List.mem_singleton] at hk
      rcases hk with hk | rfl
      · exact ht.normal k hk
      · exact ⟨hname, rfl⟩
    · exact ht.links_nodup
    · exact ht.links_message
    · intro l hl
      simp only [List.map_append, List.mem_append]
      exact Or.inl (ht.links_tag l hl)

theorem Tagged.link {t : Tables} {id : String} {g : TagRow} (ht : t.Tagged)
    (hid : id ∈ t.messages.map Row.id) (hg : g ∈ t.tags) : (t.link id g.number).Tagged := by
  unfold Tables.link
  split
  · exact ht
  · rename_i hnew
    have hnot : (id, g.number) ∉ t.links := by simpa using hnew
    refine { ht with links_nodup := ?_, links_message := ?_, links_tag := ?_ }
    · refine List.nodup_append.mpr ⟨ht.links_nodup, by simp, ?_⟩
      intro l hl l' hl' heq
      obtain rfl : l' = (id, g.number) := by simpa using hl'
      exact hnot (heq ▸ hl)
    · intro l hl
      simp only [List.mem_append, List.mem_singleton] at hl
      rcases hl with hl | rfl
      · exact ht.links_message l hl
      · exact hid
    · intro l hl
      simp only [List.mem_append, List.mem_singleton] at hl
      rcases hl with hl | rfl
      · exact ht.links_tag l hl
      · exact List.mem_map_of_mem hg

theorem Tagged.addTags {t t' : Tables} {id : String} {names known : List String} (ht : t.Tagged)
    (hid : id ∈ t.messages.map Row.id) (hnames : ∀ n ∈ names, Tag.IsNormal n)
    (h : t.addTags id names = .ok (known, t')) : t'.Tagged := by
  induction names generalizing t known with
  | nil =>
    cases h
    exact ht
  | cons name names ih =>
    obtain ⟨g, t₁, rest, hg, hrest, -⟩ := addTags_cons h
    obtain ⟨ht₁, hmem⟩ := ht.ensureTag (hnames name (by simp)) hg
    have hid₁ : id ∈ t₁.messages.map Row.id := by rw [(ensureTag_messages hg).1]; exact hid
    have hid₂ : id ∈ (t₁.link id g.number).messages.map Row.id := by
      rw [(link_messages t₁ id g.number).1]
      exact hid₁
    exact ih (ht₁.link hid₁ hmem) hid₂ (fun n hn => hnames n (by simp [hn])) hrest

theorem Tagged.filterLinks {t : Tables} (ht : t.Tagged) (p : String × Nat → Bool) :
    { t with links := t.links.filter p }.Tagged :=
  { ht with
    links_nodup := ht.links_nodup.filter p
    links_message := fun l hl => ht.links_message l (List.mem_of_mem_filter hl)
    links_tag := fun l hl => ht.links_tag l (List.mem_of_mem_filter hl) }

theorem Tagged.untag {t : Tables} (ht : t.Tagged) (id : String) : (t.untag id).Tagged :=
  ht.filterLinks _

theorem Tagged.replaceTags {t t' : Tables} {id : String} {names known : List String}
    (ht : t.Tagged) (hid : id ∈ t.messages.map Row.id)
    (h : t.replaceTags id names = .ok (known, t')) : t'.Tagged :=
  (ht.untag id).addTags hid (fun _ hn => Tag.isNormal_of_mem_normalize hn) h

theorem Tagged.pruneTags {t : Tables} (ht : t.Tagged) : t.pruneTags.Tagged where
  numbers_nodup := ht.numbers_nodup.sublist (List.filter_sublist.map _)
  numbers_le g hg := ht.numbers_le g (List.mem_of_mem_filter hg)
  keys_nodup := ht.keys_nodup.sublist (List.filter_sublist.map _)
  normal g hg := ht.normal g (List.mem_of_mem_filter hg)
  links_nodup := ht.links_nodup
  links_message := ht.links_message
  links_tag l hl := by
    obtain ⟨g, hg, hnumber⟩ := List.mem_map.mp (ht.links_tag l hl)
    have hkept : g ∈ t.pruneTags.tags := by
      simp only [Tables.pruneTags, List.mem_filter, List.any_eq_true, beq_iff_eq]
      exact ⟨hg, l, hl, hnumber.symm⟩
    exact List.mem_map.mpr ⟨g, hkept, hnumber⟩

theorem Tagged.of_messages {t t' : Tables} (ht : t.Tagged)
    (hids : t'.messages.map Row.id = t.messages.map Row.id) (htags : t'.tags = t.tags)
    (hlinks : t'.links = t.links) (hlast : t'.lastTag = t.lastTag) : t'.Tagged where
  numbers_nodup := htags ▸ ht.numbers_nodup
  numbers_le := by rw [htags, hlast]; exact ht.numbers_le
  keys_nodup := htags ▸ ht.keys_nodup
  normal := htags ▸ ht.normal
  links_nodup := hlinks ▸ ht.links_nodup
  links_message := by rw [hlinks, hids]; exact ht.links_message
  links_tag := by rw [hlinks, htags]; exact ht.links_tag

theorem Tagged.insert {t : Tables} (ht : t.Tagged) (r : Row) (payload : Bytes) :
    (t.insert r payload).Tagged :=
  { ht with links_message := fun l hl => List.mem_cons_of_mem _ (ht.links_message l hl) }

theorem Tagged.remove {t : Tables} (ht : t.Tagged) (ids : List String) :
    (t.remove ids).Tagged := by
  refine { ht.filterLinks _ with links_message := ?_ }
  intro l hl
  obtain ⟨hlinked, hkept⟩ := List.mem_filter.mp hl
  obtain ⟨r, hr, hid⟩ := List.mem_map.mp (ht.links_message l hlinked)
  exact List.mem_map.mpr ⟨r, List.mem_filter.mpr ⟨hr, hid ▸ hkept⟩, hid⟩

theorem Tagged.clear (t : Tables) : t.clear.Tagged := by
  constructor <;> simp [Tables.clear]

end Letterbox.Tables
