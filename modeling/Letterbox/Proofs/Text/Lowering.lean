import Letterbox.Proofs.Text.AsciiCase

namespace Letterbox.Text

def lowerWithin (before after : List Char) : List Char → List Char
  | [] => []
  | c :: rest => lowerAt before (rest ++ after) c ++ lowerWithin (c :: before) after rest

theorem lowerWithin_nil (before s : List Char) : lowerWithin before [] s = lowerAfter before s := by
  induction s generalizing before with
  | nil => rfl
  | cons c s ih => rw [lowerWithin, ih, List.append_nil, lowerAfter_cons]

theorem lowerAfter_append (before s after : List Char) :
    lowerAfter before (s ++ after) =
      lowerWithin before after s ++ lowerAfter (s.reverse ++ before) after := by
  induction s generalizing before with
  | nil => rfl
  | cons c s ih =>
    rw [List.cons_append, lowerAfter_cons, ih, lowerWithin, List.append_assoc, List.reverse_cons,
      List.append_assoc, List.singleton_append]

theorem lower_append_append (before s after : List Char) :
    lower (before ++ s ++ after) = lowerWithin [] (s ++ after) before ++
      lowerWithin before.reverse after s ++ lowerAfter (s.reverse ++ before.reverse) after := by
  rw [lower, List.append_assoc, lowerAfter_append, lowerAfter_append, List.append_nil,
    List.append_assoc]

theorem isWhole_lowerWithin {before after s : List Char} (hs : Wildcard.IsWhole s) :
    Wildcard.IsWhole (lowerWithin before after s) := by
  induction s generalizing before with
  | nil => exact hs
  | cons c s ih =>
    rw [Wildcard.IsWhole, List.mem_cons, not_or] at hs
    rw [Wildcard.IsWhole, lowerWithin, List.mem_append, not_or]
    refine ⟨fun hmem => ?_, ih hs.2⟩
    exact hs.1 ((isLowerOf_of_mem_lowerAt hmem).2 rfl).symm

theorem lowerAt_eq_iff {before after before' after' : List Char} {c : Char} :
    lowerAt before after c = lowerAt before' after' c ↔
      (c = 'Σ' → endsWord before after = endsWord before' after') := by
  unfold lowerAt
  by_cases hc : c = 'Σ'
  · subst hc
    cases endsWord before after <;> cases endsWord before' after' <;> simp
  · simp [hc]

theorem length_lowerAt (before after before' after' : List Char) (c : Char) :
    (lowerAt before after c).length = (lowerAt before' after' c).length := by
  unfold lowerAt
  split
  · split <;> split <;> rfl
  · rfl

/-- Whether each capital sigma of a text ends a word between two others just if it ends one in the
text alone. The first of the others is given in reverse. -/
def KeepsSigmas (before after s : List Char) : Prop :=
  ∀ x y, s = x ++ 'Σ' :: y →
    endsWord (x.reverse ++ before) (y ++ after) = endsWord x.reverse y

theorem lowerWithin_eq_iff {before after before' after' s : List Char} :
    lowerWithin before after s = lowerWithin before' after' s ↔ ∀ x y, s = x ++ 'Σ' :: y →
      endsWord (x.reverse ++ before) (y ++ after) =
        endsWord (x.reverse ++ before') (y ++ after') := by
  induction s generalizing before before' with
  | nil => simp [lowerWithin]
  | cons c s ih =>
    have hparts : lowerWithin before after (c :: s) = lowerWithin before' after' (c :: s) ↔
        lowerAt before (s ++ after) c = lowerAt before' (s ++ after') c ∧
          lowerWithin (c :: before) after s = lowerWithin (c :: before') after' s := by
      rw [lowerWithin, lowerWithin]
      exact ⟨fun h => List.append_inj h (length_lowerAt ..), fun h => by rw [h.1, h.2]⟩
    rw [hparts, lowerAt_eq_iff, ih]
    constructor
    · rintro ⟨hfirst, hrest⟩ x y heq
      cases x with
      | nil =>
        obtain ⟨rfl, rfl⟩ := List.cons.inj heq
        exact hfirst rfl
      | cons d x =>
        obtain ⟨rfl, rfl⟩ := List.cons.inj heq
        simpa using hrest x y rfl
    · intro h
      constructor
      · rintro rfl
        exact h [] s rfl
      · rintro x y rfl
        simpa using h (c :: x) y rfl

theorem lowerWithin_eq_lower_iff {before after s : List Char} :
    lowerWithin before after s = lower s ↔ KeepsSigmas before after s := by
  rw [lower, ← lowerWithin_nil, lowerWithin_eq_iff, KeepsSigmas]
  simp only [List.append_nil]

theorem keepsSigmas_of_not_mem {s : List Char} (hs : 'Σ' ∉ s) (before after : List Char) :
    KeepsSigmas before after s := by
  rintro x y rfl
  exact absurd (by simp) hs

theorem meetsCased_append {s t : List Char} (ht : meetsCased t = false) :
    meetsCased (s ++ t) = meetsCased s := by
  induction s with
  | nil => exact ht
  | cons c s ih => rw [List.cons_append, meetsCased_cons, meetsCased_cons, ih]

theorem keepsSigmas_of_not_meetsCased {before after : List Char}
    (hbefore : meetsCased before = false) (hafter : meetsCased after = false) (s : List Char) :
    KeepsSigmas before after s := by
  intro x y _
  rw [endsWord, endsWord, meetsCased_append hbefore, meetsCased_append hafter]

theorem lowerChar_ne_nil (c : Char) : lowerChar c ≠ [] := by
  unfold lowerChar
  split
  · simp
  · split
    · simp
    · split <;> simp

theorem lowerAt_ne_nil (before after : List Char) (c : Char) : lowerAt before after c ≠ [] := by
  unfold lowerAt
  split
  · split <;> simp
  · exact lowerChar_ne_nil c

theorem length_le_lowerAfter (before s : List Char) :
    s.length ≤ (lowerAfter before s).length := by
  induction s generalizing before with
  | nil => exact Nat.zero_le _
  | cons c s ih =>
    have hc := List.length_pos_iff.mpr (lowerAt_ne_nil before s c)
    have hrest := ih (c :: before)
    rw [lowerAfter_cons, List.length_append, List.length_cons]
    omega

theorem lowerAt_eq_toLower_iff {before after : List Char} {c : Char} :
    lowerAt before after c = [c.toLower] ↔ lowerChar c = [c.toLower] := by
  by_cases hc : c = 'Σ'
  · subst hc
    have halone : lowerChar 'Σ' ≠ ['Σ'.toLower] := by decide +kernel
    have hfinal : ['ς'] ≠ ['Σ'.toLower] := by decide
    have hmedial : ['σ'] ≠ ['Σ'.toLower] := by decide
    refine iff_of_false ?_ halone
    simp only [lowerAt, BEq.rfl, if_true]
    split
    · exact hfinal
    · exact hmedial
  · simp [lowerAt, hc]

def IsLoweredAsAscii (s : List Char) : Prop :=
  ∀ c ∈ s, lowerChar c = [c.toLower]

instance (s : List Char) : Decidable (IsLoweredAsAscii s) :=
  List.decidableBAll (fun c => lowerChar c = [c.toLower]) s

theorem lowerAfter_of_isLoweredAsAscii {before s : List Char} (h : IsLoweredAsAscii s) :
    lowerAfter before s = lowerAscii s := by
  induction s generalizing before with
  | nil => rfl
  | cons c s ih =>
    obtain ⟨hfirst, hrest⟩ := List.forall_mem_cons.mp h
    rw [lowerAfter_cons, lowerAt_eq_toLower_iff.mpr hfirst, ih hrest]
    rfl

theorem lowerChar_of_replaced {c : Char} (h : Wildcard.asRead c = '\uFFFD') :
    lowerChar c = [c.toLower] := by
  by_cases hmerged : c = '\uFFFE' ∨ c = '\uFFFF'
  · rcases hmerged with rfl | rfl <;> decide +kernel
  · have hself : Wildcard.asRead c = c := if_neg (by simpa using hmerged)
    obtain rfl : c = '\uFFFD' := hself.symm.trans h
    decide +kernel

theorem lowerChar_of_reading_lowerAt {before after : List Char} {c : Char}
    (h : Wildcard.reading (lowerAt before after c) = [Wildcard.asRead c.toLower]) :
    lowerChar c = [c.toLower] := by
  obtain ⟨d, rest, hlowered, hread, hnone⟩ := List.map_eq_cons_iff.mp h
  obtain rfl := List.map_eq_nil_iff.mp hnone
  by_cases hreplaced : Wildcard.asRead c.toLower = '\uFFFD'
  · exact lowerChar_of_replaced ((Wildcard.asRead_toLower_iff c).mp hreplaced)
  · rw [← lowerAt_eq_toLower_iff, hlowered, Wildcard.eq_of_asRead_eq hreplaced hread]

theorem isLoweredAsAscii_of_reading {before s : List Char}
    (h : Wildcard.reading (lowerAfter before s) = Wildcard.folded s) : IsLoweredAsAscii s := by
  induction s generalizing before with
  | nil => simp [IsLoweredAsAscii]
  | cons c s ih =>
    have hascii : Wildcard.folded (c :: s) = [Wildcard.asRead c.toLower] ++ Wildcard.folded s := rfl
    rw [lowerAfter_cons, Wildcard.reading_append, hascii] at h
    -- no character is lowered to nothing, so that neither part can be longer than its own
    have hc := List.length_pos_iff.mpr (lowerAt_ne_nil before s c)
    have hs := length_le_lowerAfter (c :: before) s
    have hlength := congrArg List.length h
    simp only [Wildcard.folded, Wildcard.reading, lowerAscii, List.length_append, List.length_map,
      List.length_singleton] at hlength
    obtain ⟨hfirst, hrest⟩ := List.append_inj h (by
      rw [Wildcard.reading, List.length_map, List.length_singleton]
      omega)
    exact List.forall_mem_cons.mpr ⟨lowerChar_of_reading_lowerAt hfirst, ih hrest⟩

theorem lowerAfter_eq_lowerAscii_iff {before s : List Char} :
    lowerAfter before s = lowerAscii s ↔ IsLoweredAsAscii s :=
  ⟨fun h => isLoweredAsAscii_of_reading (congrArg Wildcard.reading h),
    lowerAfter_of_isLoweredAsAscii⟩

end Letterbox.Text
