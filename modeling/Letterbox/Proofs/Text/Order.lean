import Letterbox.Text.Order
import Mathlib.Data.List.Nodup
import Mathlib.Data.List.Sort
import Mathlib.Data.String.Basic

namespace Letterbox.Text

variable {α : Type}

theorem toNat_lt_toNat (c d : Char) : c.toNat < d.toNat ↔ c < d :=
  Iff.rfl

theorem before_iff_le (s t : List Char) : before s t = true ↔ s ≤ t := by
  induction s generalizing t with
  | nil => simp [before, ← not_lt]
  | cons c s ih =>
    cases t with
    | nil => simp [before, ← not_lt]
    | cons d t =>
      rw [before, Bool.or_eq_true, Bool.and_eq_true, decide_eq_true_eq, beq_iff_eq, ih,
        toNat_lt_toNat, ← not_lt, ← not_lt, List.cons_lt_cons_iff]
      rcases lt_trichotomy c d with h | rfl | h
      · simp [h, h.asymm, h.ne']
      · simp
      · simp [h, h.asymm, h.ne']

def keyBefore (key : α → List Char) (a b : α) : Bool :=
  before (key a) (key b)

theorem pairwise_sortBy (key : α → List Char) (l : List α) :
    (sortBy key l).Pairwise fun a b => key a ≤ key b := by
  have htrans : ∀ a b c, keyBefore key a b = true → keyBefore key b c = true →
      keyBefore key a c = true := by
    intro a b c hab hbc
    rw [keyBefore, before_iff_le] at *
    exact le_trans hab hbc
  have htotal : ∀ a b, (keyBefore key a b || keyBefore key b a) = true := by
    intro a b
    simp only [keyBefore, Bool.or_eq_true, before_iff_le]
    exact le_total _ _
  have hsorted := List.pairwise_mergeSort htrans htotal l
  exact hsorted.imp fun h => (before_iff_le _ _).mp h

theorem mem_sortBy {key : α → List Char} {l : List α} {a : α} : a ∈ sortBy key l ↔ a ∈ l :=
  List.mem_mergeSort

theorem sortBy_perm (key : α → List Char) (l : List α) : (sortBy key l).Perm l :=
  List.mergeSort_perm l _

theorem sortBy_strict (key : α → List Char) (l : List α) (hnodup : (l.map key).Nodup) :
    (sortBy key l).Pairwise fun a b => key a < key b := by
  have hne : (sortBy key l).Pairwise fun a b => key a ≠ key b := by
    have hperm := (sortBy_perm key l).map key
    exact List.pairwise_map.mp (hperm.nodup_iff.mpr hnodup)
  exact ((pairwise_sortBy key l).and hne).imp fun h => lt_of_le_of_ne h.1 h.2

theorem eq_of_strict {key : α → List Char} {l k : List α}
    (hl : l.Pairwise fun a b => key a < key b) (hk : k.Pairwise fun a b => key a < key b)
    (h : ∀ a, a ∈ l ↔ a ∈ k) : l = k := by
  have hirrefl : Std.Irrefl fun a b : α => key a < key b := ⟨fun _ => lt_irrefl _⟩
  have hantisymm : Std.Antisymm fun a b : α => key a < key b :=
    ⟨fun _ _ hab hba => absurd hba hab.asymm⟩
  exact hl.eq_of_mem_iff hk h

theorem nodup_of_strict {key : α → List Char} {l : List α}
    (hl : l.Pairwise fun a b => key a < key b) : (l.map key).Nodup :=
  List.pairwise_map.mpr (hl.imp fun h => h.ne)

theorem nodup_toList {f : α → String} {l : List α} (h : (l.map f).Nodup) :
    (l.map fun a => (f a).toList).Nodup := by
  have hchars : (l.map fun a => (f a).toList) = (l.map f).map String.toList := by
    rw [List.map_map]
    rfl
  rw [hchars]
  exact h.map fun _ _ => String.toList_inj.mp

theorem filter_eq_singleton {f : α → String} {l : List α} (h : (l.map f).Nodup) {a : α}
    (ha : a ∈ l) : (l.filter fun b => f b == f a) = [a] := by
  induction l with
  | nil => simp at ha
  | cons b l ih =>
    obtain ⟨hnew, hrest⟩ := List.nodup_cons.mp h
    rcases List.mem_cons.mp ha with rfl | ha
    · have hothers : (l.filter fun b => f b == f a) = [] := by
        refine List.filter_eq_nil_iff.mpr ?_
        intro b hb heq
        exact hnew (eq_of_beq heq ▸ List.mem_map_of_mem hb)
      rw [List.filter_cons, beq_self_eq_true, if_pos rfl, hothers]
    · have hne : f b ≠ f a := fun heq => hnew (heq ▸ List.mem_map_of_mem ha)
      rw [List.filter_cons, beq_eq_false_iff_ne.mpr hne, if_neg Bool.false_ne_true]
      exact ih hrest ha

end Letterbox.Text
