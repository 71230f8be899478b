import Letterbox.Proofs.Mailbox.Vocabulary

namespace Letterbox.Tables

theorem mem_tags_of_ensureTag {t t' : Tables} {name : String} {g k : TagRow}
    (h : t.ensureTag name = .ok (g, t')) (hk : k ∈ t.tags) : k ∈ t'.tags := by
  rcases ensureTag_cases h with ⟨-, -, rfl⟩ | ⟨-, -, rfl⟩
  · exact hk
  · simp [hk]

theorem ensureTag_eq {t t' : Tables} {name : String} {g : TagRow}
    (h : t.ensureTag name = .ok (g, t')) :
    g ∈ t'.tags ∧ g.key = Tag.key name ∧ t'.links = t.links := by
  rcases ensureTag_cases h with ⟨hg, hkey, rfl⟩ | ⟨-, rfl, rfl⟩
  · exact ⟨hg, hkey, rfl⟩
  · exact ⟨by simp, rfl, rfl⟩

theorem mem_link {t : Tables} {id : String} {number : Nat} {l : String × Nat} :
    l ∈ (t.link id number).links ↔ l ∈ t.links ∨ l = (id, number) := by
  unfold link
  split
  · rename_i hlinked
    have hmem : (id, number) ∈ t.links := by simpa using hlinked
    constructor
    · exact Or.inl
    · rintro (hl | rfl)
      · exact hl
      · exact hmem
  · simp

structure Tags (t t' : Tables) (id : String) (names known : List String) (given : List TagRow) :
    Prop where
  known : known = given.map TagRow.name
  keys : given.map TagRow.key = names.map Tag.key
  given_mem : ∀ g ∈ given, g ∈ t'.tags
  tags_mem : ∀ g ∈ t.tags, g ∈ t'.tags
  links : ∀ number, (id, number) ∈ t'.links ↔
    (id, number) ∈ t.links ∨ number ∈ given.map TagRow.number

theorem tags_of_addTags {t t' : Tables} {id : String} {names known : List String}
    (h : t.addTags id names = .ok (known, t')) : ∃ given, t.Tags t' id names known given := by
  induction names generalizing t known with
  | nil =>
    cases h
    exact ⟨[], rfl, rfl, by simp, fun _ hg => hg, by simp⟩
  | cons name names ih =>
    obtain ⟨g, t₁, rest, hg, hrest, rfl⟩ := addTags_cons h
    obtain ⟨given, hgiven⟩ := ih hrest
    obtain ⟨hmem, hkey, hlinks⟩ := ensureTag_eq hg
    have htags := (link_messages t₁ id g.number).2.2.1
    refine ⟨g :: given, ?_⟩
    constructor
    · rw [hgiven.known, List.map_cons]
    · rw [List.map_cons, List.map_cons, hgiven.keys, hkey]
    · intro k hk
      rcases List.mem_cons.mp hk with rfl | hk
      · exact hgiven.tags_mem k (htags ▸ hmem)
      · exact hgiven.given_mem k hk
    · intro k hk
      exact hgiven.tags_mem k (htags ▸ mem_tags_of_ensureTag hg hk)
    · intro number
      rw [hgiven.links, mem_link, hlinks, List.map_cons, List.mem_cons, Prod.mk.injEq,
        and_iff_right rfl, or_assoc]

theorem links_of_addTags {t t' : Tables} {id other : String} {names known : List String}
    (hother : other ≠ id) (h : t.addTags id names = .ok (known, t')) (number : Nat) :
    (other, number) ∈ t'.links ↔ (other, number) ∈ t.links := by
  induction names generalizing t known with
  | nil =>
    cases h
    rfl
  | cons name names ih =>
    obtain ⟨g, t₁, rest, hg, hrest, -⟩ := addTags_cons h
    have hunlinked : (other, number) ≠ (id, g.number) := fun heq => hother (Prod.ext_iff.mp heq).1
    rw [ih hrest, mem_link, or_iff_left hunlinked, (ensureTag_eq hg).2.2]

theorem Tags.tagsOf_eq {t t' : Tables} {id : String} {names known : List String}
    {given : List TagRow} (h : t.Tags t' id names known given) (ht' : t'.Tagged)
    (hbare : ∀ number, (id, number) ∉ t.links)
    (hnames : names.Pairwise fun a b => (Tag.key a).toList < (Tag.key b).toList) :
    t'.tagsOf id = known := by
  have hcarried := ht'.pairwise_sortedTags.filter (t'.carries id)
  have hgiven : given.Pairwise fun a b => a.key.toList < b.key.toList := by
    have hkeys : (given.map TagRow.key).Pairwise fun a b => a.toList < b.toList := by
      rw [h.keys]
      exact List.pairwise_map.mpr hnames
    rw [List.pairwise_map] at hkeys
    exact hkeys
  have hmem (g : TagRow) : g ∈ t'.sortedTags.filter (t'.carries id) ↔ g ∈ given := by
    rw [List.mem_filter, sortedTags, Text.mem_sortBy, carries, List.contains_iff_mem, h.links,
      or_iff_right (hbare g.number)]
    constructor
    · -- numbers tell the tags of the vocabulary apart
      rintro ⟨hg, hnumber⟩
      obtain ⟨k, hk, heq⟩ := List.mem_map.mp hnumber
      exact List.inj_on_of_nodup_map ht'.numbers_nodup (h.given_mem k hk) hg heq ▸ hk
    · intro hg
      exact ⟨h.given_mem g hg, List.mem_map_of_mem hg⟩
  rw [tagsOf, Text.eq_of_strict hcarried hgiven hmem, h.known]

theorem Tagged.tagsOf_replaceTags {t t' : Tables} {id : String} {names known : List String}
    (ht : t.Tagged) (hid : id ∈ t.messages.map Row.id)
    (h : t.replaceTags id names = .ok (known, t')) : t'.tagsOf id = known := by
  obtain ⟨given, hgiven⟩ := tags_of_addTags h
  refine hgiven.tagsOf_eq (ht.replaceTags hid h) ?_ (Tag.pairwise_normalize names)
  intro number hmem
  simp [Tables.untag] at hmem

theorem Tagged.tagsOf_of_links {t t' : Tables} (ht : t.Tagged) (ht' : t'.Tagged)
    (htags : t.tags ⊆ t'.tags) {id : String}
    (hlinks : ∀ number, (id, number) ∈ t'.links ↔ (id, number) ∈ t.links) :
    t'.tagsOf id = t.tagsOf id := by
  have hmem (g : TagRow) : g ∈ t'.sortedTags.filter (t'.carries id) ↔
      g ∈ t.sortedTags.filter (t.carries id) := by
    rw [List.mem_filter, List.mem_filter, sortedTags, sortedTags, Text.mem_sortBy, Text.mem_sortBy,
      carries, carries, List.contains_iff_mem, List.contains_iff_mem, hlinks]
    constructor
    · rintro ⟨hg, hlink⟩
      obtain ⟨k, hk, hnumber⟩ := List.mem_map.mp (ht.links_tag _ hlink)
      exact ⟨List.inj_on_of_nodup_map ht'.numbers_nodup (htags hk) hg hnumber ▸ hk, hlink⟩
    · rintro ⟨hg, hlink⟩
      exact ⟨htags hg, hlink⟩
  have hsame := Text.eq_of_strict (ht'.pairwise_sortedTags.filter (t'.carries id))
    (ht.pairwise_sortedTags.filter (t.carries id)) hmem
  rw [tagsOf, tagsOf, hsame]

end Letterbox.Tables
