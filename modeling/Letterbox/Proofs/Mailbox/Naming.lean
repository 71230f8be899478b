import Letterbox.Proofs.Mailbox.Tagging
import Letterbox.Proofs.Text.AsciiCase

namespace Letterbox

open Text

theorem Tag.isWhole_of_mem_normalize {names : List String}
    (h : ∀ n ∈ names, Wildcard.IsWhole n.toList) {n : String} (hn : n ∈ normalize names) :
    Wildcard.IsWhole n.toList := by
  have hmem : n ∈ cleaned names := List.mem_of_find?_eq_some (mem_normalize.mp hn)
  obtain ⟨name, hname, rfl⟩ := List.mem_map.mp (List.mem_of_mem_filter hmem)
  intro hnul
  rw [collapsed, String.toList_ofList] at hnul
  rcases mem_of_mem_collapse hnul with hspace | hnul
  · cases hspace
  · exact h name hname hnul

namespace Tables

theorem key_eq_of_sameName {a b : String} (ha : Wildcard.IsWhole a.toList)
    (h : sameName a b = true) : Tag.key a = Tag.key b := by
  simp only [sameName, Bool.and_eq_true, beq_iff_eq] at h
  obtain ⟨hsize, hsame⟩ := h
  have hwhole : a.toList.takeWhile (· != '\x00') = a.toList := Wildcard.upToNul_of_isWhole ha
  rw [hwhole] at hsame
  have hsplit := List.takeWhile_append_dropWhile (p := fun c => c != '\x00') (l := b.toList)
  have hread : String.utf8Len (b.toList.takeWhile (· != '\x00')) = String.utf8Len a.toList := by
    rw [← utf8Len_lowerAscii a.toList, beq_iff_eq.mp hsame, utf8Len_lowerAscii]
  have hlength : String.utf8Len a.toList = String.utf8Len b.toList := by
    rwa [← String.utf8ByteSize_ofList, ← String.utf8ByteSize_ofList, String.ofList_toList,
      String.ofList_toList]
  -- both are equally long, so nothing of the other is left unread
  have hrest : b.toList.dropWhile (· != '\x00') = [] := by
    rw [← String.utf8Len_eq_zero]
    have hsum := congrArg String.utf8Len hsplit
    rw [String.utf8Len_append] at hsum
    omega
  rw [hrest, List.append_nil] at hsplit
  rw [hsplit] at hsame
  rw [Tag.key, Tag.key, lower_eq_of_sameAscii hsame]

theorem sameName_comm (a b : String) : sameName a b = sameName b a := by
  rw [sameName, sameName, Bool.beq_comm (a := a.utf8ByteSize), sameAscii, sameAscii,
    Bool.beq_comm (a := lowerAscii _)]

theorem sameName_of_sameAscii {a b : String} (h : sameAscii a.toList b.toList = true) :
    sameName a b = true := by
  rw [sameAscii, beq_iff_eq] at h
  have hsize : String.utf8Len a.toList = String.utf8Len b.toList := by
    rw [← utf8Len_lowerAscii a.toList, h, utf8Len_lowerAscii]
  have hread : lowerAscii (Wildcard.upToNul a.toList) = lowerAscii (Wildcard.upToNul b.toList) := by
    rw [← Wildcard.upToNul_lowerAscii, h, Wildcard.upToNul_lowerAscii]
  rw [← String.utf8ByteSize_ofList, ← String.utf8ByteSize_ofList, String.ofList_toList,
    String.ofList_toList] at hsize
  rw [sameName, Bool.and_eq_true, beq_iff_eq, sameAscii, beq_iff_eq]
  exact ⟨hsize, hread⟩

structure Clash (a b : String) : Prop where
  same : sameName a b = true
  apart : Tag.key a ≠ Tag.key b

theorem Clash.not_isWhole {a b : String} (h : Clash a b) :
    ¬ Wildcard.IsWhole a.toList ∧ ¬ Wildcard.IsWhole b.toList := by
  constructor
  · intro ha
    exact h.apart (key_eq_of_sameName ha h.same)
  · intro hb
    exact h.apart (key_eq_of_sameName hb ((sameName_comm b a).trans h.same)).symm

def spelling (t : Tables) (k : String) : Option String :=
  (t.tags.find? fun g => g.key == k).map TagRow.name

def spell (t : Tables) (name : String) : String :=
  (t.spelling (Tag.key name)).getD name

def fresh (t : Tables) (names : List String) : List String :=
  names.filter fun n => (t.spelling (Tag.key n)).isNone

structure Admits (t : Tables) (names : List String) : Prop where
  known : ∀ n ∈ t.fresh names, ∀ g ∈ t.tags, sameName n g.name = false
  apart : (t.fresh names).Pairwise fun a b => sameName b a = false

variable {t t' : Tables} {name : String} {names known : List String}

theorem spelling_eq_none {k : String} : t.spelling k = none ↔ k ∉ t.tags.map TagRow.key := by
  simp [spelling, List.find?_eq_none]

theorem Tagged.key_of_spelling (ht : t.Tagged) {k n : String} (h : t.spelling k = some n) :
    Tag.key n = k := by
  obtain ⟨g, hg, rfl⟩ := Option.map_eq_some_iff.mp h
  have hkey : g.key = k := by simpa using List.find?_some hg
  rw [← (ht.normal g (List.mem_of_find?_eq_some hg)).2, hkey]

theorem Tagged.spelling_of_mem (ht : t.Tagged) {g : TagRow} (hg : g ∈ t.tags) :
    t.spelling (Tag.key g.name) = some g.name := by
  have hsome : (t.tags.find? fun k => k.key == g.key).isSome = true :=
    List.find?_isSome.mpr ⟨g, hg, beq_self_eq_true g.key⟩
  obtain ⟨k, hk⟩ := Option.isSome_iff_exists.mp hsome
  have hkey : k.key = g.key := by simpa using List.find?_some hk
  obtain rfl := List.inj_on_of_nodup_map ht.keys_nodup (List.mem_of_find?_eq_some hk) hg hkey
  rw [← (ht.normal k hg).2, spelling, hk]
  rfl

theorem Tagged.key_spell (ht : t.Tagged) (name : String) :
    Tag.key (t.spell name) = Tag.key name := by
  cases h : t.spelling (Tag.key name) with
  | none => simp [spell, h]
  | some n => simp [spell, h, ht.key_of_spelling h]

theorem mem_keys_fresh {k : String} : k ∈ (t.fresh names).map Tag.key ↔
    k ∈ names.map Tag.key ∧ k ∉ t.tags.map TagRow.key := by
  rw [← spelling_eq_none, fresh]
  constructor
  · intro hk
    obtain ⟨n, hn, rfl⟩ := List.mem_map.mp hk
    obtain ⟨hmem, hnone⟩ := List.mem_filter.mp hn
    exact ⟨List.mem_map_of_mem hmem, Option.isNone_iff_eq_none.mp hnone⟩
  · rintro ⟨hk, hnone⟩
    obtain ⟨n, hn, rfl⟩ := List.mem_map.mp hk
    exact List.mem_map_of_mem (List.mem_filter.mpr ⟨hn, Option.isNone_iff_eq_none.mpr hnone⟩)

section Grown

variable {added : List TagRow} (htags : t'.tags = t.tags ++ added)

include htags

theorem spelling_of_append {k : String} (hk : k ∉ added.map TagRow.key) :
    t'.spelling k = t.spelling k := by
  have hnone : (added.find? fun g => g.key == k) = none := by
    simpa [List.find?_eq_none] using hk
  rw [spelling, htags, List.find?_append, hnone, Option.or_none]
  rfl

theorem spell_of_append (hnames : ∀ n ∈ names, Tag.key n ∉ added.map TagRow.key) :
    names.map t'.spell = names.map t.spell := by
  refine List.map_congr_left ?_
  intro n hn
  rw [spell, spell, spelling_of_append htags (hnames n hn)]

theorem fresh_of_append (hnames : ∀ n ∈ names, Tag.key n ∉ added.map TagRow.key) :
    t'.fresh names = t.fresh names := by
  refine List.filter_congr ?_
  intro n hn
  rw [spelling_of_append htags (hnames n hn)]

end Grown

structure Enters (t t' : Tables) (names known : List String) (added : List TagRow) : Prop where
  known : known = names.map t.spell
  tags : t'.tags = t.tags ++ added
  new_names : added.map TagRow.name = t.fresh names
  new_keys : added.map TagRow.key = (t.fresh names).map Tag.key

theorem ensureTag_spelling (t : Tables) (name : String) :
    (∃ g ∈ t.tags, t.spelling (Tag.key name) = some g.name ∧ t.ensureTag name = .ok (g, t)) ∨
    (t.spelling (Tag.key name) = none ∧ (∃ g ∈ t.tags, sameName name g.name = true) ∧
      t.ensureTag name = .error (.tagTaken name)) ∨
    (t.spelling (Tag.key name) = none ∧ (∀ g ∈ t.tags, sameName name g.name = false) ∧
      ∃ number t', t.ensureTag name = .ok (⟨number, name, Tag.key name⟩, t') ∧
        t'.tags = t.tags ++ [⟨number, name, Tag.key name⟩]) := by
  cases hfind : t.tags.find? fun g => g.key == Tag.key name with
  | some g =>
    refine Or.inl ⟨g, List.mem_of_find?_eq_some hfind, ?_, ?_⟩
    · rw [spelling, hfind]
      rfl
    · rw [ensureTag, hfind]
  | none =>
    have hnone : t.spelling (Tag.key name) = none := by
      rw [spelling, hfind]
      rfl
    cases hclash : t.tags.any fun g => sameName name g.name with
    | true =>
      exact Or.inr (Or.inl ⟨hnone, List.any_eq_true.mp hclash, by simp [ensureTag, hfind, hclash]⟩)
    | false =>
      have hall : ∀ g ∈ t.tags, sameName name g.name = false := by
        simpa only [List.any_eq_false, Bool.not_eq_true] using hclash
      let tag : TagRow := ⟨t.lastTag + 1, name, Tag.key name⟩
      refine Or.inr (Or.inr ⟨hnone, hall, t.lastTag + 1,
        { t with tags := t.tags ++ [tag], lastTag := t.lastTag + 1 }, ?_, rfl⟩)
      simp [ensureTag, hfind, hclash, tag]

theorem enters_of_ensureTag {g : TagRow} (h : t.ensureTag name = .ok (g, t')) :
    ∃ added, t.Enters t' [name] [g.name] added := by
  rcases ensureTag_spelling t name with
    ⟨g', -, hspelling, hok⟩ | ⟨-, -, herror⟩ | ⟨hnone, -, number, t₁, hok, htags⟩
  · rw [h, Except.ok.injEq, Prod.mk.injEq] at hok
    obtain ⟨rfl, rfl⟩ := hok
    exact ⟨[], by simp [spell, hspelling], by simp, by simp [fresh, hspelling],
      by simp [fresh, hspelling]⟩
  · rw [h] at herror
    cases herror
  · rw [h, Except.ok.injEq, Prod.mk.injEq] at hok
    obtain ⟨rfl, rfl⟩ := hok
    exact ⟨_, by simp [spell, hnone], htags, by simp [fresh, hnone], by simp [fresh, hnone]⟩

theorem Enters.cons {t₁ t₂ : Tables} {n : String} {first rest : List TagRow}
    (hfirst : t.Enters t₁ [name] [n] first) (htags : t₂.tags = t₁.tags)
    (hrest : t₂.Enters t' names known rest) (hname : Tag.key name ∉ names.map Tag.key) :
    t.Enters t' (name :: names) (n :: known) (first ++ rest) := by
  have hgrown : t₂.tags = t.tags ++ first := htags.trans hfirst.tags
  -- the names that follow are other tags, so they stand as they did before
  have hother : ∀ m ∈ names, Tag.key m ∉ first.map TagRow.key := by
    intro m hm hkey
    rw [hfirst.new_keys, fresh] at hkey
    obtain ⟨m', hm', heq⟩ := List.mem_map.mp hkey
    obtain rfl := List.mem_singleton.mp (List.mem_of_mem_filter hm')
    exact hname (heq ▸ List.mem_map_of_mem hm)
  have hsplit : t.fresh (name :: names) = t.fresh [name] ++ t.fresh names :=
    List.filter_append [name] names
  have hn : n = t.spell name := by simpa using hfirst.known
  constructor
  · rw [hrest.known, spell_of_append hgrown hother, hn, List.map_cons]
  · rw [hrest.tags, hgrown, List.append_assoc]
  · rw [List.map_append, hfirst.new_names, hrest.new_names, fresh_of_append hgrown hother, hsplit]
  · rw [List.map_append, hfirst.new_keys, hrest.new_keys, fresh_of_append hgrown hother, hsplit,
      List.map_append]

theorem enters_of_addTags {id : String} (hkeys : (names.map Tag.key).Nodup)
    (h : t.addTags id names = .ok (known, t')) : ∃ added, t.Enters t' names known added := by
  induction names generalizing t known with
  | nil =>
    cases h
    exact ⟨[], rfl, by simp, rfl, rfl⟩
  | cons name names ih =>
    rw [List.map_cons, List.nodup_cons] at hkeys
    obtain ⟨g, t₁, rest, hg, hrest, rfl⟩ := addTags_cons h
    obtain ⟨first, hfirst⟩ := enters_of_ensureTag hg
    obtain ⟨others, hothers⟩ := ih hkeys.2 hrest
    exact ⟨_, hfirst.cons (link_messages t₁ id g.number).2.2.1 hothers hkeys.1⟩

theorem admits_of_tags (h : t'.tags = t.tags) : t'.Admits names ↔ t.Admits names := by
  have hgrown : t'.tags = t.tags ++ [] := by rw [List.append_nil, h]
  have hsame : t'.fresh names = t.fresh names := fresh_of_append hgrown (by simp)
  constructor
  · rintro ⟨hknown, hapart⟩
    exact ⟨by rwa [hsame, h] at hknown, by rwa [hsame] at hapart⟩
  · rintro ⟨hknown, hapart⟩
    exact ⟨by rwa [hsame, h], by rwa [hsame]⟩

theorem admits_cons_of_known {n : String} (h : t.spelling (Tag.key name) = some n) :
    t.Admits (name :: names) ↔ t.Admits names := by
  have hsame : t.fresh (name :: names) = t.fresh names := List.filter_cons_of_neg (by simp [h])
  constructor
  · rintro ⟨hknown, hapart⟩
    rw [hsame] at hknown hapart
    exact ⟨hknown, hapart⟩
  · rintro ⟨hknown, hapart⟩
    rw [← hsame] at hknown hapart
    exact ⟨hknown, hapart⟩

theorem admits_cons_of_new (h : t.spelling (Tag.key name) = none)
    (hname : Tag.key name ∉ names.map Tag.key) {number : Nat}
    (htags : t'.tags = t.tags ++ [⟨number, name, Tag.key name⟩]) :
    t.Admits (name :: names) ↔
      (∀ g ∈ t.tags, sameName name g.name = false) ∧ t'.Admits names := by
  have hcons : t.fresh (name :: names) = name :: t.fresh names :=
    List.filter_cons_of_pos (by simp [h])
  have hsame : t'.fresh names = t.fresh names := by
    refine fresh_of_append htags ?_
    intro n hn hkey
    have heq : Tag.key n = Tag.key name := by simpa using hkey
    exact hname (heq ▸ List.mem_map_of_mem hn)
  constructor
  · rintro ⟨hknown, hapart⟩
    rw [hcons, List.forall_mem_cons] at hknown
    rw [hcons, List.pairwise_cons] at hapart
    refine ⟨hknown.1, ?_, hsame ▸ hapart.2⟩
    intro n hn g hg
    rw [hsame] at hn
    rw [htags, List.mem_append, List.mem_singleton] at hg
    rcases hg with hg | rfl
    · exact hknown.2 n hn g hg
    · exact hapart.1 n hn
  · rintro ⟨hfirst, hknown, hapart⟩
    rw [hsame] at hknown hapart
    constructor
    · rw [hcons, List.forall_mem_cons]
      refine ⟨hfirst, ?_⟩
      intro n hn g hg
      exact hknown n hn g (htags ▸ List.mem_append_left _ hg)
    · rw [hcons, List.pairwise_cons]
      refine ⟨?_, hapart⟩
      intro n hn
      exact hknown n hn ⟨number, name, Tag.key name⟩ (by simp [htags])

theorem addTags_iff_admits (id : String) (hkeys : (names.map Tag.key).Nodup) :
    (∃ known t', t.addTags id names = .ok (known, t')) ↔ t.Admits names := by
  induction names generalizing t with
  | nil =>
    constructor
    · intro _
      exact ⟨by simp [fresh], by simp [fresh]⟩
    · intro _
      exact ⟨[], t, rfl⟩
  | cons name names ih =>
    rw [List.map_cons, List.nodup_cons] at hkeys
    have hrest {g : TagRow} {t₁ : Tables} (hg : t.ensureTag name = .ok (g, t₁)) :
        (∃ known t', t.addTags id (name :: names) = .ok (known, t')) ↔
          (t₁.link id g.number).Admits names := by
      rw [← ih hkeys.2]
      constructor
      · rintro ⟨known, t', h⟩
        obtain ⟨g', t₁', rest, hg', hrest, -⟩ := addTags_cons h
        rw [hg, Except.ok.injEq, Prod.mk.injEq] at hg'
        obtain ⟨rfl, rfl⟩ := hg'
        exact ⟨rest, t', hrest⟩
      · rintro ⟨rest, t', h⟩
        exact ⟨g.name :: rest, t', by simp [addTags, hg, h, bind, Except.bind, pure, Except.pure]⟩
    rcases ensureTag_spelling t name with
      ⟨g, -, hspelling, hok⟩ | ⟨hnone, ⟨g, hg, hclash⟩, herror⟩ |
      ⟨hnone, hfree, number, t₁, hok, htags⟩
    · rw [hrest hok, admits_cons_of_known hspelling, admits_of_tags (link_messages t id _).2.2.1]
    · constructor
      · rintro ⟨known, t', h⟩
        obtain ⟨g', t₁, rest, hg', -⟩ := addTags_cons h
        rw [herror] at hg'
        cases hg'
      · intro hadmits
        have hmem : name ∈ t.fresh (name :: names) :=
          List.mem_filter.mpr ⟨List.mem_cons_self, by simp [hnone]⟩
        rw [hadmits.known name hmem g hg] at hclash
        cases hclash
    · rw [hrest hok, admits_of_tags (link_messages t₁ id number).2.2.1,
        admits_cons_of_new hnone hkeys.1 htags, and_iff_right hfree]

theorem Tagged.admits_of_isWhole (ht : t.Tagged) (hkeys : (names.map Tag.key).Nodup)
    (hnames : ∀ n ∈ names, Wildcard.IsWhole n.toList) : t.Admits names where
  known := by
    intro n hn g hg
    obtain ⟨hmem, hnone⟩ := List.mem_filter.mp hn
    rw [Option.isNone_iff_eq_none, spelling_eq_none] at hnone
    rw [← Bool.not_eq_true]
    intro hsame
    have hkey := key_eq_of_sameName (hnames n hmem) hsame
    rw [hkey, ← (ht.normal g hg).2] at hnone
    exact hnone (List.mem_map_of_mem hg)
  apart := by
    have hdistinct : names.Pairwise fun a b => Tag.key a ≠ Tag.key b := List.pairwise_map.mp hkeys
    refine (hdistinct.filter _).imp_of_mem ?_
    intro a b _ hb hne
    rw [← Bool.not_eq_true]
    intro hsame
    exact hne (key_eq_of_sameName (hnames b (List.mem_of_mem_filter hb)) hsame).symm

theorem clash_of_sameName (hkeys : ∀ g ∈ t.tags, g.key = Tag.key g.name)
    (hnew : t.spelling (Tag.key name) = none) {g : TagRow} (hg : g ∈ t.tags)
    (h : sameName name g.name = true) : Clash name g.name := by
  refine ⟨h, ?_⟩
  intro hkey
  rw [spelling_eq_none, hkey, ← hkeys g hg] at hnew
  exact hnew (List.mem_map_of_mem hg)

theorem ensureTag_of_not_clash (hkeys : ∀ g ∈ t.tags, g.key = Tag.key g.name)
    (hnew : Tag.key name ∉ t.tags.map TagRow.key) (hapart : ∀ g ∈ t.tags, ¬ Clash name g.name) :
    (∀ g ∈ t.tags, sameName name g.name = false) ∧
      ∃ tag t', t.ensureTag name = .ok (tag, t') ∧ tag.name = name ∧ tag.key = Tag.key name ∧
        t'.tags = t.tags ++ [tag] := by
  rw [← spelling_eq_none] at hnew
  rcases ensureTag_spelling t name with
    ⟨g, -, hknown, -⟩ | ⟨-, ⟨g, hg, hsame⟩, -⟩ | ⟨-, hfree, number, t', hok, htags⟩
  · rw [hnew] at hknown
    cases hknown
  · exact absurd (clash_of_sameName hkeys hnew hg hsame) (hapart g hg)
  · exact ⟨hfree, _, t', hok, rfl, rfl, htags⟩

theorem clash_of_ensureTag {why : MailError} (hkeys : ∀ g ∈ t.tags, g.key = Tag.key g.name)
    (h : t.ensureTag name = .error why) :
    why = .tagTaken name ∧ ∃ g ∈ t.tags, Clash name g.name := by
  rcases ensureTag_spelling t name with
    ⟨g, -, -, hok⟩ | ⟨hnew, ⟨g, hg, hsame⟩, htaken⟩ | ⟨-, -, number, t', hok, -⟩
  · rw [h] at hok
    cases hok
  · rw [h, Except.error.injEq] at htaken
    exact ⟨htaken, g, hg, clash_of_sameName hkeys hnew hg hsame⟩
  · rw [h] at hok
    cases hok

theorem clash_of_addTags {id n : String} (hkeys : ∀ g ∈ t.tags, g.key = Tag.key g.name)
    (h : t.addTags id names = .error (.tagTaken n)) :
    n ∈ names ∧ ∃ rival ∈ t.tags.map TagRow.name ++ names, Clash n rival := by
  induction names generalizing t with
  | nil => cases h
  | cons name names ih =>
    have hrest {g : TagRow} {t₁ : Tables} (hg : t.ensureTag name = .ok (g, t₁)) :
        (t₁.link id g.number).addTags id names = .error (.tagTaken n) := by
      cases hadded : (t₁.link id g.number).addTags id names with
      | error why => simpa [addTags, hg, hadded, bind, Except.bind] using h
      | ok p => simp [addTags, hg, hadded, bind, Except.bind, pure, Except.pure] at h
    rcases ensureTag_spelling t name with
      ⟨g, -, -, hok⟩ | ⟨hnone, ⟨g, hg, hsame⟩, herror⟩ | ⟨-, -, number, t₁, hok, htags⟩
    · have hlinked := (link_messages t id g.number).2.2.1
      obtain ⟨hn, rival, hrival, hclash⟩ := ih (hlinked ▸ hkeys) (hrest hok)
      rw [hlinked, List.mem_append] at hrival
      refine ⟨List.mem_cons_of_mem name hn, rival, ?_, hclash⟩
      exact List.mem_append.mpr (hrival.imp_right (List.mem_cons_of_mem name))
    · simp only [addTags, herror, bind, Except.bind, Except.error.injEq, MailError.tagTaken.injEq]
        at h
      subst h
      refine ⟨List.mem_cons_self, g.name, ?_, clash_of_sameName hkeys hnone hg hsame⟩
      exact List.mem_append_left _ (List.mem_map_of_mem hg)
    · have hlinked := (link_messages t₁ id number).2.2.1.trans htags
      have hgrown : ∀ g ∈ (t₁.link id number).tags, g.key = Tag.key g.name := by
        intro g hg
        rw [hlinked, List.mem_append, List.mem_singleton] at hg
        rcases hg with hg | rfl
        · exact hkeys g hg
        · rfl
      obtain ⟨hn, rival, hrival, hclash⟩ := ih hgrown (hrest hok)
      refine ⟨List.mem_cons_of_mem name hn, rival, ?_, hclash⟩
      rw [hlinked, List.map_append, List.append_assoc] at hrival
      exact hrival

end Tables

end Letterbox
