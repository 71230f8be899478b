import Letterbox.Text.Decimal
import Mathlib.Algebra.Group.Nat.Defs
import Mathlib.Data.List.Induction

namespace Letterbox.Text

theorem digitValue_digitChar (n : Nat) : digitValue (digitChar n) = n % 10 := by
  have hall : ∀ d, d < 10 → digitValue (Char.ofNat (48 + d)) = d := by decide
  exact hall (n % 10) (by omega)

theorem isDigit_digitChar (n : Nat) : isDigit (digitChar n) = true := by
  have hall : ∀ d, d < 10 → isDigit (Char.ofNat (48 + d)) = true := by decide
  exact hall (n % 10) (by omega)

theorem ofDigits_append (s : List Char) (c : Char) :
    ofDigits (s ++ [c]) = ofDigits s * 10 + digitValue c := by
  simp [ofDigits]

theorem ofDigits_lt {s : List Char} (hs : ∀ c ∈ s, isDigit c = true) :
    ofDigits s < 10 ^ s.length := by
  induction s using List.reverseRecOn with
  | nil => exact Nat.one_pos
  | append_singleton s c ih =>
    obtain ⟨hs, hc⟩ := List.forall_mem_append.mp hs
    have hdigit : digitValue c < 10 := by
      have hc := hc c (List.mem_singleton_self c)
      rw [isDigit, Bool.and_eq_true, decide_eq_true_eq, decide_eq_true_eq] at hc
      rw [digitValue]
      omega
    have hfront := ih hs
    rw [ofDigits_append, List.length_append, List.length_singleton, Nat.pow_succ]
    omega

theorem ofDigits_digits (n : Nat) : ofDigits (digits n) = n := by
  induction n using digits.induct with
  | case1 n hn =>
    rw [digits, if_pos hn]
    simp only [ofDigits, List.foldl_cons, List.foldl_nil, digitValue_digitChar]
    omega
  | case2 n hn ih =>
    rw [digits, if_neg hn, ofDigits_append, ih, digitValue_digitChar]
    omega

theorem isDigit_of_mem_digits {n : Nat} {c : Char} (hc : c ∈ digits n) : isDigit c = true := by
  induction n using digits.induct with
  | case1 n hn =>
    rw [digits, if_pos hn, List.mem_singleton] at hc
    exact hc ▸ isDigit_digitChar n
  | case2 n hn ih =>
    rw [digits, if_neg hn, List.mem_append, List.mem_singleton] at hc
    rcases hc with hc | rfl
    · exact ih hc
    · exact isDigit_digitChar n

theorem digits_ne_nil (n : Nat) : digits n ≠ [] := by
  rw [digits]
  split <;> simp

theorem head?_digits_ne_zero (n : Nat) (hn : 0 < n) : (digits n).head? ≠ some '0' := by
  induction n using digits.induct with
  | case1 n hlt =>
    have hall : ∀ d, d < 10 → 0 < d → Char.ofNat (48 + d) ≠ '0' := by decide
    rw [digits, if_pos hlt]
    simpa [digitChar, Nat.mod_eq_of_lt hlt] using hall n hlt hn
  | case2 n hge ih =>
    have hhead := ih (by omega)
    obtain ⟨c, s, hs⟩ := List.exists_cons_of_ne_nil (digits_ne_nil (n / 10))
    rw [hs] at hhead
    rw [digits, if_neg hge, hs]
    exact hhead

theorem no_leading_zero (n : Nat) :
    ((digits n).head? == some '0' && decide ((digits n).length > 1)) = false := by
  rcases Nat.eq_zero_or_pos n with rfl | hn
  · rw [digits]
    simp
  · have := head?_digits_ne_zero n hn
    simp [this]

section Runs

variable {ds rest : List Char} (hds : ∀ c ∈ ds, isDigit c = true)
  (hrest : ∀ c ∈ rest.head?, isDigit c = false)

include hds hrest

theorem takeWhile_isDigit_append : (ds ++ rest).takeWhile isDigit = ds := by
  rw [List.takeWhile_append_of_pos hds]
  cases rest with
  | nil => simp
  | cons c rest => simp [hrest c rfl]

theorem dropWhile_isDigit_append : (ds ++ rest).dropWhile isDigit = rest := by
  rw [List.dropWhile_append_of_pos hds]
  cases rest with
  | nil => rfl
  | cons c rest => simp [hrest c rfl]

end Runs

theorem takeWhile_digits (n : Nat) (rest : List Char)
    (hrest : ∀ c ∈ rest.head?, isDigit c = false) :
    (digits n ++ rest).takeWhile isDigit = digits n :=
  takeWhile_isDigit_append (fun _ hc => isDigit_of_mem_digits hc) hrest

theorem dropWhile_digits (n : Nat) (rest : List Char)
    (hrest : ∀ c ∈ rest.head?, isDigit c = false) :
    (digits n ++ rest).dropWhile isDigit = rest :=
  dropWhile_isDigit_append (fun _ hc => isDigit_of_mem_digits hc) hrest

theorem length_digits_le {width n : Nat} (hwidth : 0 < width) (hn : n < 10 ^ width) :
    (digits n).length ≤ width := by
  induction n using digits.induct generalizing width with
  | case1 n hlt =>
    rw [digits, if_pos hlt]
    exact hwidth
  | case2 n hge ih =>
    obtain ⟨width, rfl⟩ := Nat.exists_eq_succ_of_ne_zero (Nat.ne_of_gt hwidth)
    have hrest : n / 10 < 10 ^ width := by
      rw [Nat.pow_succ] at hn
      omega
    have hwidth' : 0 < width := by
      rw [Nat.pos_iff_ne_zero]
      rintro rfl
      omega
    rw [digits, if_neg hge, List.length_append, List.length_singleton]
    exact Nat.succ_le_succ (ih hwidth' hrest)

theorem length_padded {width n : Nat} (hwidth : 0 < width) (hn : n < 10 ^ width) :
    (padded width n).length = width := by
  have hle := length_digits_le hwidth hn
  simp only [padded, List.length_append, List.length_replicate]
  omega

theorem padded_ne_nil (width n : Nat) : padded width n ≠ [] := by
  rw [padded, ne_eq, List.append_eq_nil_iff, not_and]
  exact fun _ => digits_ne_nil n

theorem isDigit_of_mem_padded {width n : Nat} {c : Char} (hc : c ∈ padded width n) :
    isDigit c = true := by
  rw [padded, List.mem_append] at hc
  rcases hc with hzero | hdigit
  · rw [List.eq_of_mem_replicate hzero]
    rfl
  · exact isDigit_of_mem_digits hdigit

theorem ofDigits_padded (width n : Nat) : ofDigits (padded width n) = n := by
  have hzeros (k : Nat) (s : List Char) : ofDigits (List.replicate k '0' ++ s) = ofDigits s := by
    induction k with
    | zero => rfl
    | succ k ih => exact ih
  rw [padded, hzeros, ofDigits_digits]

theorem hexValue?_hexDigit : ∀ n, n < 16 → hexValue? (hexDigit n) = some n := by
  decide

end Letterbox.Text
