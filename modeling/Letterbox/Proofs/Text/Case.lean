import Letterbox.Proofs.Text.Wildcard

namespace Letterbox.Text

open CaseTable

def IsCapital (c : Char) : Prop :=
  65 ≤ c.toNat ∧ c.toNat ≤ 90

theorem toLower_of_not_isCapital {c : Char} (h : ¬ IsCapital c) : c.toLower = c := by
  unfold Char.toLower
  exact dif_neg h

theorem toNat_ofNat {n : Nat} (h : n.isValidChar) : (Char.ofNat n).toNat = n := by
  rw [Char.ofNat, dif_pos h]
  rfl

def IsLowerOf (c d : Char) : Prop :=
  ¬ IsCapital d ∧ (d = '\x00' → c = '\x00')

theorem isLowerOf_ascii {c : Char} (hc : c.toNat < 128) : IsLowerOf c c.toLower := by
  have hall : ∀ n, n < 128 → ¬ (65 ≤ (Char.ofNat n).toLower.toNat ∧
      (Char.ofNat n).toLower.toNat ≤ 90) ∧
      ((Char.ofNat n).toLower = '\x00' → Char.ofNat n = '\x00') := by
    decide
  have h := hall c.toNat hc
  rw [Char.ofNat_toNat] at h
  exact h

theorem isLowerOf_of_le {c d : Char} (hd : 97 ≤ d.toNat) : IsLowerOf c d := by
  constructor
  · intro h
    have := h.2
    omega
  · rintro rfl
    exact absurd hd (by decide)

def Run.isSafe (r : Run) : Bool :=
  decide (97 ≤ r.first + r.shift) && (decide (r.last + r.shift < 0xD800) ||
    (decide (0xE000 ≤ r.first + r.shift) && decide (r.last + r.shift < 0x110000)))

theorem isSafe_of_mem_lowerRuns : ∀ r ∈ lowerRuns, Run.isSafe r = true := by
  decide +kernel

theorem toNat_lowered {c : Char} {r : Run} (hr : r ∈ lowerRuns) (hc : r.has c.toNat = true) :
    97 ≤ c.toNat + r.shift ∧
      ((Char.ofNat (Int.toNat (c.toNat + r.shift))).toNat : Int) = c.toNat + r.shift := by
  have hsafe := isSafe_of_mem_lowerRuns r hr
  simp only [Run.isSafe, Bool.and_eq_true, Bool.or_eq_true, decide_eq_true_eq] at hsafe
  simp only [Run.has, Bool.and_eq_true, decide_eq_true_eq] at hc
  have hvalid : (Int.toNat (c.toNat + r.shift)).isValidChar := by
    unfold Nat.isValidChar
    omega
  rw [toNat_ofNat hvalid]
  omega

theorem isLowerOf_run {c : Char} {r : Run} (hr : r ∈ lowerRuns) (hc : r.has c.toNat = true) :
    IsLowerOf c (Char.ofNat (Int.toNat (c.toNat + r.shift))) := by
  obtain ⟨hle, hlowered⟩ := toNat_lowered hr hc
  exact isLowerOf_of_le (by omega)

theorem isLowerOf_of_mem_lowerChar {c d : Char} (hd : d ∈ lowerChar c) : IsLowerOf c d := by
  unfold lowerChar at hd
  split at hd
  · rename_i hascii
    exact List.mem_singleton.mp hd ▸ isLowerOf_ascii hascii
  · rename_i hascii
    split at hd
    · simp only [List.mem_cons, List.not_mem_nil, or_false] at hd
      rcases hd with rfl | rfl <;> exact isLowerOf_of_le (by decide)
    · split at hd
      · rename_i r hfind
        have hhas := List.find?_some hfind
        exact List.mem_singleton.mp hd ▸ isLowerOf_run (List.mem_of_find?_eq_some hfind) hhas
      · obtain rfl := List.mem_singleton.mp hd
        exact isLowerOf_of_le (by omega)

def endsWord (before after : List Char) : Bool :=
  meetsCased before && !meetsCased after

def lowerAt (before after : List Char) (c : Char) : List Char :=
  if c == 'Σ' then (if endsWord before after then ['ς'] else ['σ']) else lowerChar c

theorem lowerAfter_cons (before : List Char) (c : Char) (s : List Char) :
    lowerAfter before (c :: s) = lowerAt before s c ++ lowerAfter (c :: before) s :=
  rfl

theorem isLowerOf_of_mem_lowerAt {before after : List Char} {c d : Char}
    (hd : d ∈ lowerAt before after c) : IsLowerOf c d := by
  unfold lowerAt at hd
  split at hd
  · split at hd <;> obtain rfl := List.mem_singleton.mp hd <;> exact isLowerOf_of_le (by decide)
  · exact isLowerOf_of_mem_lowerChar hd

theorem isLowerOf_of_mem_lowerAfter {before s : List Char} {d : Char}
    (hd : d ∈ lowerAfter before s) : ∃ c ∈ s, IsLowerOf c d := by
  induction s generalizing before with
  | nil => simp [lowerAfter] at hd
  | cons c s ih =>
    rw [lowerAfter_cons, List.mem_append] at hd
    rcases hd with hd | hd
    · exact ⟨c, by simp, isLowerOf_of_mem_lowerAt hd⟩
    · obtain ⟨c', hc', h⟩ := ih hd
      exact ⟨c', by simp [hc'], h⟩

theorem lowerAscii_lower (s : List Char) : lowerAscii (lower s) = lower s := by
  refine (List.map_congr_left ?_).trans (List.map_id _)
  intro d hd
  obtain ⟨c, -, hlower⟩ := isLowerOf_of_mem_lowerAfter hd
  exact toLower_of_not_isCapital hlower.1

theorem isWhole_lower {s : List Char} (hs : Wildcard.IsWhole s) : Wildcard.IsWhole (lower s) := by
  intro hmem
  obtain ⟨c, hc, hlower⟩ := isLowerOf_of_mem_lowerAfter hmem
  exact hs (hlower.2 rfl ▸ hc)

end Letterbox.Text
