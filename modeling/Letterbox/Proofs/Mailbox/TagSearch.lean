import Letterbox.Proofs.Mailbox.Matching
import Letterbox.Proofs.Mailbox.Retagging
import Letterbox.Proofs.Query.Quoted
import Letterbox.Proofs.Text.Spacing

namespace Letterbox

open Query Text

def Summary.hasKey (k : String) (s : Summary) : Bool :=
  (s.tags.map Tag.key).contains k

theorem Summary.hasKey_iff {k : String} {s : Summary} :
    s.hasKey k = true ↔ k ∈ s.tags.map Tag.key :=
  List.contains_iff_mem

namespace Tag

theorem collapsed_ne_empty {name : String} (h : allBlank name.toList = false) :
    collapsed name ≠ "" := by
  intro hempty
  rw [← isEmpty_collapsed, hempty] at h
  cases h

theorem cleaned_singleton {name : String} (h : allBlank name.toList = false) :
    cleaned [name] = [collapsed name] := by
  simp [cleaned, isEmpty_collapsed, h]

theorem key_collapsed_eq_iff {name : String} :
    key name = key (collapsed name) ↔ collapsed name = name := by
  constructor
  · intro h
    have hlower : lower (collapse name.toList) = lower name.toList := by
      have hlists := String.ofList_injective h
      rw [collapsed, String.toList_ofList] at hlists
      exact hlists.symm
    rw [collapsed, lower_collapse_eq_iff.mp hlower, String.ofList_toList]
  · intro h
    rw [h]

theorem quote_not_mem_collapsed {name : String} (h : '"' ∉ name.toList) :
    '"' ∉ (collapsed name).toList := by
  rw [collapsed, String.toList_ofList]
  intro hmem
  rcases mem_of_mem_collapse hmem with hspace | hname
  · exact absurd hspace (by decide)
  · exact h hname

end Tag

namespace Tables

variable {t t' : Tables} {id x : String} {known : List String}

theorem Tagged.holds_tag (ht : t.Tagged) {r : Row} {s : Summary} (h : t.Shows r s) (y : String) :
    Search.holds t r ⟨.field .tag y, false⟩ = s.hasKey (Tag.key y) := by
  have hcondition : Search.holds t r ⟨.field .tag y, false⟩ =
      (Search.keysOf t r.id).contains (Tag.key y) := Bool.bne_false _
  rw [hcondition, Bool.eq_iff_iff, List.contains_iff_mem, Search.mem_keysOf ht,
    Summary.hasKey_iff, h.tags, List.mem_map]

theorem inLimits_tag (y : String) : InLimits [⟨.field .tag y, false⟩] :=
  Search.inLimits_singleton (by rintro v ⟨⟩)

theorem Sound.search?_tag (ht : t.Sound) {y : String} (hy : y ≠ "") (hquote : '"' ∉ y.toList)
    {limit : UInt64} (hlimit : signedBound ≤ limit.toNat) :
    let found := (t.list 0 limit).filter (Summary.hasKey (Tag.key y))
    t.search? (fieldQuery .tag y) 0 limit =
      .ok { messages := found, total := found.length.toUInt64 } := by
  intro found
  have hparse := parse_fieldQuery .tag hy hquote
  have hlimits : InLimits (parse (fieldQuery .tag y)) := hparse ▸ inLimits_tag y
  have hmatching := ht.matching?_eq hlimits
  rw [hparse] at hmatching
  have hfound : found = t.summaries (t.newestFirst.filter fun r =>
      [⟨.field .tag y, false⟩].all (Search.holds t r)) := by
    refine Eq.trans ?_ (summaries_filter (q := Summary.hasKey (Tag.key y)) ?_).symm
    · simp only [found, list_unlimited t hlimit]
    · intro r hr
      obtain ⟨s, hs, hshows⟩ := ht.shelved.exists_shows (mem_newestFirst.mp hr)
      refine ⟨s, hs, ?_⟩
      rw [List.all_cons, List.all_nil, Bool.and_true, ht.tagged.holds_tag hshows]
  have hlength : found.length =
      (t.newestFirst.filter fun r => [⟨.field .tag y, false⟩].all (Search.holds t r)).length := by
    rw [hfound]
    exact (ht.shelved.shows (mem_of_sublist List.filter_sublist)).length_eq.symm
  rw [search?_of_matching hlimit hmatching, ← hfound, hlength]

theorem Sound.mem_filter_hasKey (ht : t.Sound) (hid : id ∈ t.messages.map Row.id)
    {limit : UInt64} (hlimit : signedBound ≤ limit.toNat) {k : String} :
    id ∈ ((t.list 0 limit).filter (Summary.hasKey k)).map Summary.id ↔
      k ∈ (t.tagsOf id).map Tag.key := by
  rw [list_unlimited t hlimit, List.mem_map]
  constructor
  · rintro ⟨s, hs, rfl⟩
    rw [List.mem_filter, Summary.hasKey_iff] at hs
    obtain ⟨r, -, hrs⟩ := mem_summaries_newestFirst.mp hs.1
    rw [summary?_id hrs, ← summary?_tags hrs]
    exact hs.2
  · intro hk
    obtain ⟨r, hr, rfl⟩ := List.mem_map.mp hid
    obtain ⟨s, hs, hshows⟩ := ht.shelved.exists_shows hr
    refine ⟨s, List.mem_filter.mpr ⟨?_, ?_⟩, hshows.id⟩
    · exact mem_summaries_newestFirst.mpr ⟨r, hr, hs⟩
    · rw [Summary.hasKey_iff, hshows.tags]
      exact hk

theorem Retags.keys_tagsOf (h : t.Retags t' id [x] known) (hx : allBlank x.toList = false)
    (k : String) : k ∈ (t'.tagsOf id).map Tag.key ↔ k = Tag.key (Tag.collapsed x) := by
  rw [h.shown, h.keys, Tag.cleaned_singleton hx, List.map_singleton, List.mem_singleton]

end Tables

namespace Mailbox

variable {m : Mailbox} {id x : String} {known : List String}

structure FindsTag (m : Mailbox) (id x : String) : Prop where
  found : ∀ y, y ≠ "" → '"' ∉ y.toList → ∀ now (limit : UInt64), Tables.signedBound ≤ limit.toNat →
    ∃ l, (m.list now 0 limit).1 = .ok l ∧ (m.search now (fieldQuery .tag y) 0 limit).1 = .ok
      { messages := l.filter (Summary.hasKey (Tag.key y))
        total := (l.filter (Summary.hasKey (Tag.key y))).length.toUInt64 }
  as_given : ∀ now (limit : UInt64), Tables.signedBound ≤ limit.toNat →
    ∃ page, (m.search now (fieldQuery .tag x) 0 limit).1 = .ok page ∧
      (id ∈ page.messages.map Summary.id ↔ Tag.collapsed x = x)
  as_kept : ∀ now (limit : UInt64), Tables.signedBound ≤ limit.toNat →
    ∃ page, (m.search now (fieldQuery .tag (Tag.collapsed x)) 0 limit).1 = .ok page ∧
      id ∈ page.messages.map Summary.id

theorem retags_of_setTags (hopen : m.closed = false) (hsound : m.tables.Sound) (now : Instant)
    {names : List String} (h : (m.setTags now id names).1 = .ok known) :
    id ∈ (m.setTags now id names).2.tables.messages.map Row.id ∧
      m.tables.Retags (m.setTags now id names).2.tables id names known := by
  rcases setTags_cases hopen now id names with
    ⟨-, heq⟩ | ⟨r, why, -, -, heq⟩ | ⟨r, known', t, hrow, htags, heq⟩
  · rw [heq] at h
    cases h
  · rw [heq] at h
    cases h
  · rw [heq, Except.ok.injEq] at h
    obtain ⟨hr, rfl⟩ := Tables.mem_of_row? hrow
    have hid : r.id ∈ m.tables.messages.map Row.id := List.mem_map_of_mem hr
    rw [heq, announceStats_tables, (Tables.replaceTags_messages htags).1]
    exact ⟨hid, h ▸ hsound.tagged.retags hid htags⟩

theorem search_tag (hopen : m.closed = false) (hsound : m.tables.Sound) {y : String} (hy : y ≠ "")
    (hquote : '"' ∉ y.toList) (now : Instant) {limit : UInt64}
    (hlimit : Tables.signedBound ≤ limit.toNat) :
    (m.search now (fieldQuery .tag y) 0 limit).1 = .ok
      { messages := (m.tables.list 0 limit).filter (Summary.hasKey (Tag.key y))
        total := ((m.tables.list 0 limit).filter
          (Summary.hasKey (Tag.key y))).length.toUInt64 } := by
  rw [search, look_of_open hopen, hsound.search?_tag hy hquote hlimit]

theorem search_run_tag {t : Tables} (ht : t.Reached) {config : Config} {webhook : Bool}
    {start : Instant} {m : Mailbox} (hopen : open? config t webhook start = .ok m)
    (requests : List Request) (now : Instant) {id x : String}
    (hx : allBlank x.toList = false) (hquote : '"' ∉ x.toList) {known : List String}
    (h : ((m.run requests).setTags now id [x]).1 = .ok known) :
    ((m.run requests).setTags now id [x]).2.FindsTag id x := by
  have hclosed := closed_run hopen requests
  have hsound := (Tables.Reached.session ht hopen requests).sound
  have hleads := leadsTo_setTags hclosed now id [x]
  have hclosed' := hleads.closed.trans hclosed
  have hsound' := hleads.changes.sound hsound
  obtain ⟨hid, hretags⟩ := retags_of_setTags hclosed hsound now h
  have hx' : x ≠ "" := by
    rintro rfl
    cases hx
  have hname := Tag.collapsed_ne_empty hx
  have hquote' := Tag.quote_not_mem_collapsed hquote
  constructor
  case found =>
    intro y hy hyquote later limit hlimit
    refine ⟨_, ?_, search_tag hclosed' hsound' hy hyquote later hlimit⟩
    rw [list, look_of_open hclosed']
  case as_given =>
    intro later limit hlimit
    refine ⟨_, search_tag hclosed' hsound' hx' hquote later hlimit, ?_⟩
    rw [hsound'.mem_filter_hasKey hid hlimit, hretags.keys_tagsOf hx, Tag.key_collapsed_eq_iff]
  case as_kept =>
    intro later limit hlimit
    refine ⟨_, search_tag hclosed' hsound' hname hquote' later hlimit, ?_⟩
    rw [hsound'.mem_filter_hasKey hid hlimit, hretags.keys_tagsOf hx]

theorem search_run_tag_spaced :
    let m := ({ config := {}, rules := ⟨[]⟩ } : Mailbox).run
      [⟨⟨1, 0⟩, .store "a" [70, 58, 32, 120, 10, 10], by decide⟩]
    (m.setTags ⟨2, 0⟩ "a" ["Two  words"]).1 = .ok ["Two words"] ∧
      (m.setTags ⟨2, 0⟩ "a" ["Two  words"]).2.FindsTag "a" "Two  words" := by
  intro m
  have hopen : open? {} {} false ⟨0, 0⟩ = .ok { config := {}, rules := ⟨[]⟩ } := rfl
  have hset : (m.setTags ⟨2, 0⟩ "a" ["Two  words"]).1 = .ok ["Two words"] := by decide +kernel
  exact ⟨hset, search_run_tag .empty hopen _ ⟨2, 0⟩ (by decide) (by decide) hset⟩

theorem search_run_tag_lost :
    let m := ({ config := {}, rules := ⟨[]⟩ } : Mailbox).run
      [⟨⟨1, 0⟩, .store "a" [70, 58, 32, 120, 10, 10], by decide⟩,
       ⟨⟨2, 0⟩, .setTags "a" ["Two  words"], by decide⟩]
    ((m.tags ⟨3, 0⟩ "a").1, ((m.search ⟨3, 0⟩ "tag:\"Two  words\"" 0 (0 - 1)).1.map
        fun page => (page.messages.map Summary.id, page.total)),
      ((m.search ⟨3, 0⟩ "tag:\"two words\"" 0 (0 - 1)).1.map
        fun page => (page.messages.map Summary.id, page.total))) =
      (.ok ["Two words"], .ok ([], 0), .ok (["a"], 1)) := by
  decide +kernel

end Mailbox

end Letterbox
