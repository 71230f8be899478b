import Letterbox.Mailbox.Tag
import Letterbox.Proofs.Text.Order
import Letterbox.Proofs.Text.Spacing

namespace Letterbox.Tag

open Text

theorem collapsed_collapsed (name : String) : collapsed (collapsed name) = collapsed name := by
  simp only [collapsed, String.toList_ofList, collapse_collapse]

theorem isEmpty_collapsed (name : String) : (collapsed name).isEmpty = allBlank name.toList := by
  rw [Bool.eq_iff_iff, String.isEmpty_iff, ← String.toList_eq_nil_iff, collapsed,
    String.toList_ofList]
  constructor
  · intro hnil
    rw [← Bool.not_eq_false]
    exact fun hsome => collapse_ne_nil hsome hnil
  · intro hblank
    rw [collapse, words_eq_nil_iff.mpr hblank]
    rfl

def cleaned (names : List String) : List String :=
  (names.map collapsed).filter fun n => !n.isEmpty

def firstSeen (names : List String) (k : String) : Option String :=
  (cleaned names).find? fun n => key n == k

theorem mem_cleaned {names : List String} {n : String} :
    n ∈ cleaned names ↔ ∃ name ∈ names, allBlank name.toList = false ∧ collapsed name = n := by
  simp only [cleaned, List.mem_filter, List.mem_map, Bool.not_eq_true']
  constructor
  · rintro ⟨⟨name, hname, rfl⟩, hsome⟩
    exact ⟨name, hname, isEmpty_collapsed name ▸ hsome, rfl⟩
  · rintro ⟨name, hname, hsome, rfl⟩
    exact ⟨⟨name, hname, rfl⟩, (isEmpty_collapsed name).trans hsome⟩

theorem firstSeen_eq_some_iff {names : List String} {k n : String} :
    firstSeen names k = some n ↔ ∃ before name after, names = before ++ name :: after ∧
      allBlank name.toList = false ∧ collapsed name = n ∧ key n = k ∧
      ∀ other ∈ before, allBlank other.toList = false → key (collapsed other) ≠ k := by
  simp only [firstSeen, cleaned, List.find?_filter, List.find?_map, Option.map_eq_some_iff,
    List.find?_eq_some_iff_append, Function.comp_apply, isEmpty_collapsed, Bool.not_eq_true',
    beq_iff_eq, decide_eq_true_eq]
  constructor
  · rintro ⟨name, ⟨⟨hsome, hkey⟩, before, after, rfl, hbefore⟩, rfl⟩
    refine ⟨before, name, after, rfl, hsome, rfl, hkey, ?_⟩
    intro other hother hblank
    simpa [hblank] using hbefore other hother
  · rintro ⟨before, name, after, rfl, hsome, rfl, hkey, hbefore⟩
    refine ⟨name, ⟨⟨hsome, hkey⟩, before, after, rfl, ?_⟩, rfl⟩
    intro other hother
    cases hblank : allBlank other.toList with
    | true => simp
    | false => simpa using hbefore other hother hblank

def keepFirst (kept : List String) (name : String) : List String :=
  if kept.any fun k => key k == key name then kept else kept ++ [name]

theorem keys_nodup_keepFirst {kept : List String} (h : (kept.map key).Nodup) (name : String) :
    ((keepFirst kept name).map key).Nodup := by
  unfold keepFirst
  split
  · exact h
  · rename_i hnew
    have hkey : key name ∉ kept.map key := by simpa using hnew
    simpa [List.nodup_append] using ⟨h, by simpa using hkey⟩

theorem keys_nodup_foldl_keepFirst {kept : List String} (h : (kept.map key).Nodup)
    (names : List String) : ((names.foldl keepFirst kept).map key).Nodup := by
  induction names generalizing kept with
  | nil => exact h
  | cons name names ih => exact ih (keys_nodup_keepFirst h name)

theorem find?_key {names : List String} {n : String} (hn : n ∈ names) :
    ∃ first, names.find? (fun c => key c == key n) = some first ∧ key first = key n := by
  have hsome : (names.find? fun c => key c == key n).isSome = true :=
    List.find?_isSome.mpr ⟨n, hn, beq_self_eq_true (key n)⟩
  obtain ⟨first, hfirst⟩ := Option.isSome_iff_exists.mp hsome
  exact ⟨first, hfirst, by simpa using List.find?_some hfirst⟩

theorem any_key {names : List String} {name : String} :
    (names.any fun k => key k == key name) = true ↔ key name ∈ names.map key := by
  simp [List.any_eq_true]

theorem mem_foldl_keepFirst {names kept : List String} {n : String} :
    n ∈ names.foldl keepFirst kept ↔
      n ∈ kept ∨ key n ∉ kept.map key ∧ names.find? (fun c => key c == key n) = some n := by
  induction names generalizing kept with
  | nil => simp
  | cons name names ih =>
    rw [List.foldl_cons, ih, List.find?_cons, keepFirst]
    by_cases hknown : key name ∈ kept.map key
    · rw [if_pos (any_key.mpr hknown)]
      cases hsame : key name == key n with
      | true => simp [← beq_iff_eq.mp hsame, hknown]
      | false => rfl
    · rw [if_neg (mt any_key.mp hknown), List.map_append, List.mem_append, List.mem_append]
      cases hsame : key name == key n with
      | true =>
        rw [beq_iff_eq] at hsame
        simp only [← hsame, hknown, List.map_cons, List.map_nil, List.mem_singleton,
          Option.some.injEq, or_true, not_true, false_and, or_false, not_false_eq_true, true_and]
        exact or_congr_right eq_comm
      | false =>
        have hother : key n ≠ key name := fun heq => by simp [heq] at hsame
        have hname : n ≠ name := fun heq => hother (congrArg key heq)
        simp [hother, hname]

theorem mem_normalize {names : List String} {n : String} :
    n ∈ normalize names ↔ firstSeen names (key n) = some n := by
  have hsorted : n ∈ normalize names ↔ n ∈ (cleaned names).foldl keepFirst [] := mem_sortBy
  rw [hsorted, mem_foldl_keepFirst]
  simp [firstSeen]

theorem mem_keys_normalize {names : List String} {k : String} :
    k ∈ (normalize names).map key ↔ k ∈ (cleaned names).map key := by
  constructor
  · intro hk
    obtain ⟨n, hn, rfl⟩ := List.mem_map.mp hk
    exact List.mem_map_of_mem (List.mem_of_find?_eq_some (mem_normalize.mp hn))
  · intro hk
    obtain ⟨c, hc, rfl⟩ := List.mem_map.mp hk
    obtain ⟨n, hn, hkey⟩ := find?_key hc
    have hfirst : firstSeen names (key n) = some n := hkey ▸ hn
    exact List.mem_map.mpr ⟨n, mem_normalize.mpr hfirst, hkey⟩

theorem keys_nodup_firstOfEach (names : List String) : ((firstOfEach names).map key).Nodup := by
  have hnone : (([] : List String).map key).Nodup := .nil
  exact keys_nodup_foldl_keepFirst hnone names

theorem keys_nodup_normalize (names : List String) : ((normalize names).map key).Nodup :=
  ((sortBy_perm _ _).map key).nodup_iff.mpr (keys_nodup_firstOfEach (cleaned names))

theorem pairwise_normalize (names : List String) :
    (normalize names).Pairwise fun a b => (key a).toList < (key b).toList :=
  sortBy_strict (fun n => (key n).toList) _ (nodup_toList (keys_nodup_firstOfEach (cleaned names)))

def IsNormal (name : String) : Prop :=
  name ≠ "" ∧ collapsed name = name

theorem isNormal_of_mem_normalize {names : List String} {n : String} (hn : n ∈ normalize names) :
    IsNormal n := by
  have hmem : n ∈ cleaned names := List.mem_of_find?_eq_some (mem_normalize.mp hn)
  simp only [cleaned, List.mem_filter, List.mem_map, Bool.not_eq_true'] at hmem
  obtain ⟨⟨name, -, rfl⟩, hne⟩ := hmem
  exact ⟨by simpa using hne, collapsed_collapsed name⟩

theorem cleaned_of_isNormal {names : List String} (h : ∀ n ∈ names, IsNormal n) :
    cleaned names = names := by
  have hmap : names.map collapsed = names :=
    (List.map_congr_left fun n hn => (h n hn).2).trans (List.map_id _)
  rw [cleaned, hmap, List.filter_eq_self]
  intro n hn
  simpa using (h n hn).1

theorem normalize_of_isNormal {names : List String} (h : ∀ n ∈ names, IsNormal n)
    (hsorted : names.Pairwise fun a b => (key a).toList < (key b).toList) :
    normalize names = names := by
  refine eq_of_strict (pairwise_normalize names) hsorted ?_
  intro n
  rw [mem_normalize, firstSeen, cleaned_of_isNormal h]
  constructor
  · exact List.mem_of_find?_eq_some
  · intro hn
    obtain ⟨first, hfirst, hkey⟩ := find?_key hn
    have hsame : first = n := List.inj_on_of_nodup_map (nodup_of_strict hsorted)
      (List.mem_of_find?_eq_some hfirst) hn (congrArg String.toList hkey)
    rw [hfirst, hsame]

/-- What the normal form of a list of names is: strictly increasing by what names are the same tag by,
with one name for each tag that is given, which is the first one given for it. -/
structure IsNormalForm (names normal : List String) : Prop where
  increasing : normal.Pairwise fun a b => key a < key b
  keys : ∀ k, k ∈ normal.map key ↔
    ∃ name ∈ names, allBlank name.toList = false ∧ key (collapsed name) = k
  first : ∀ n ∈ normal, ∃ before name after, names = before ++ name :: after ∧
    allBlank name.toList = false ∧ n = collapsed name ∧
    ∀ other ∈ before, allBlank other.toList = false → key (collapsed other) ≠ key n

theorem mem_keys_cleaned {names : List String} {k : String} : k ∈ (cleaned names).map key ↔
    ∃ name ∈ names, allBlank name.toList = false ∧ key (collapsed name) = k := by
  simp only [List.mem_map, mem_cleaned]
  constructor
  · rintro ⟨n, ⟨name, hname, hsome, rfl⟩, rfl⟩
    exact ⟨name, hname, hsome, rfl⟩
  · rintro ⟨name, hname, hsome, rfl⟩
    exact ⟨collapsed name, ⟨name, hname, hsome, rfl⟩, rfl⟩

theorem isNormalForm_normalize (names : List String) : IsNormalForm names (normalize names) where
  increasing := (pairwise_normalize names).imp String.lt_iff_toList_lt.mpr
  keys k := mem_keys_normalize.trans mem_keys_cleaned
  first n hn := by
    obtain ⟨before, name, after, hnames, hsome, hname, -, hbefore⟩ :=
      firstSeen_eq_some_iff.mp (mem_normalize.mp hn)
    exact ⟨before, name, after, hnames, hsome, hname.symm, hbefore⟩

theorem IsNormalForm.mem_iff {names normal : List String} (h : IsNormalForm names normal)
    {n : String} : n ∈ normal ↔ firstSeen names (key n) = some n := by
  have hfirst {n : String} (hn : n ∈ normal) : firstSeen names (key n) = some n := by
    obtain ⟨before, name, after, hnames, hsome, hname, hbefore⟩ := h.first n hn
    exact firstSeen_eq_some_iff.mpr ⟨before, name, after, hnames, hsome, hname.symm, rfl, hbefore⟩
  refine ⟨hfirst, ?_⟩
  intro hseen
  have hkey : key n ∈ normal.map key := by
    rw [h.keys, ← mem_keys_cleaned]
    exact List.mem_map_of_mem (List.mem_of_find?_eq_some hseen)
  obtain ⟨n', hn', hsame⟩ := List.mem_map.mp hkey
  have hboth := hfirst hn'
  rw [hsame, hseen, Option.some.injEq] at hboth
  exact hboth ▸ hn'

theorem IsNormalForm.eq_normalize {names normal : List String} (h : IsNormalForm names normal) :
    normal = normalize names := by
  have hincreasing : normal.Pairwise fun a b => (key a).toList < (key b).toList :=
    h.increasing.imp String.lt_iff_toList_lt.mp
  refine eq_of_strict hincreasing (pairwise_normalize names) ?_
  intro n
  rw [h.mem_iff, mem_normalize]

theorem keys_normalize_perm {names other : List String} (h : names.Perm other) :
    (normalize other).map key = (normalize names).map key := by
  have hstrict (l : List String) :
      ((normalize l).map key).Pairwise fun a b => a.toList < b.toList :=
    List.pairwise_map.mpr (pairwise_normalize l)
  refine eq_of_strict (hstrict other) (hstrict names) ?_
  intro k
  simp only [mem_keys_normalize, mem_keys_cleaned, h.mem_iff]

theorem normalize_normalForm (names : List String) :
    (∀ normal, IsNormalForm names normal ↔ normal = normalize names) ∧
      normalize (normalize names) = normalize names ∧
      ∀ other, names.Perm other → (normalize other).map key = (normalize names).map key := by
  refine ⟨?_, ?_, ?_⟩
  · intro normal
    constructor
    · exact IsNormalForm.eq_normalize
    · rintro rfl
      exact isNormalForm_normalize names
  · exact normalize_of_isNormal (fun n hn => isNormal_of_mem_normalize hn) (pairwise_normalize names)
  · intro other hperm
    exact keys_normalize_perm hperm

theorem normalize_normalForm_swapped :
    let names := ["  work ", "Ärger", "WORK", "", "big \u00A0 deal", "ärger"]
    let other := ["ärger", "big \u00A0 deal", "", "WORK", "Ärger", "  work "]
    names.Perm other ∧ "work" ∈ normalize names ∧ "WORK" ∈ normalize other ∧
      (normalize other).map key = (normalize names).map key := by
  intro names other
  have hperm : names.Perm other := by decide
  exact ⟨hperm, mem_normalize.mpr (by decide +kernel), mem_normalize.mpr (by decide +kernel),
    (normalize_normalForm names).2.2 other hperm⟩

end Letterbox.Tag
