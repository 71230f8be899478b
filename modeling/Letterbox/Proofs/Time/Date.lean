import Letterbox.Proofs.Text.Decimal
import Letterbox.Proofs.Text.Trim
import Letterbox.Time.Calendar

namespace Letterbox.Date

open Text

theorem not_isBlank_of_isDigit {c : Char} (hc : isDigit c = true) : isBlank c = false := by
  simp only [isDigit, Bool.and_eq_true, decide_eq_true_eq] at hc
  simp only [isBlank, Bool.or_eq_false_iff, Bool.and_eq_false_iff, decide_eq_false_iff_not,
    beq_eq_false_iff_ne]
  omega

theorem isDigit_of_mem_head {width n : Nat} {rest : List Char} {c : Char}
    (hc : c ∈ (padded width n ++ rest).head?) : isDigit c = true := by
  rw [List.head?_append_of_ne_nil _ (padded_ne_nil width n)] at hc
  exact isDigit_of_mem_padded (List.mem_of_mem_head? hc)

theorem trimLeft_padded (width n : Nat) (rest : List Char) :
    trimLeft (padded width n ++ rest) = padded width n ++ rest :=
  trimLeft_eq_self fun _ hc => not_isBlank_of_isDigit (isDigit_of_mem_head hc)

theorem padded_append_ne_cons {width n : Nat} {c : Char} (hc : isDigit c = false)
    (rest s : List Char) : padded width n ++ rest ≠ c :: s := by
  intro heq
  have hdigit : isDigit c = true := isDigit_of_mem_head (congrArg List.head? heq)
  rw [hc] at hdigit
  cases hdigit

theorem leadingDigits_append {ds : List Char} (hds : ∀ c ∈ ds, isDigit c = true)
    (rest : List Char) : leadingDigits ds.length (ds ++ rest) = (ds, rest) := by
  induction ds with
  | nil => rfl
  | cons c ds ih =>
    obtain ⟨hc, hds'⟩ := List.forall_mem_cons.mp hds
    rw [List.length_cons, List.cons_append, leadingDigits, if_pos hc, ih hds']

theorem readNumber_padded {width n : Nat} (hwidth : 0 < width) (hn : n < 10 ^ width)
    (rest : List Char) : readNumber width (padded width n ++ rest) = some (n, rest) := by
  have hdigits : ∀ c ∈ padded width n, isDigit c = true := fun _ => isDigit_of_mem_padded
  have hread := leadingDigits_append hdigits rest
  rw [length_padded hwidth hn] at hread
  have hsome : (padded width n).isEmpty = false := by simpa using padded_ne_nil width n
  simp only [readNumber, trimLeft_padded, hread, hsome, Bool.false_eq_true, if_false,
    ofDigits_padded]

theorem readYear_yearText (y : Int) {rest : List Char}
    (hrest : ∀ c ∈ rest.head?, isDigit c = false) :
    readYear (yearText y ++ rest) = some (y, rest) := by
  have hsome (n : Nat) : (padded 4 n).isEmpty = false := by simpa using padded_ne_nil 4 n
  have htake (n : Nat) : (padded 4 n ++ rest).takeWhile isDigit = padded 4 n :=
    takeWhile_isDigit_append (fun _ hc => isDigit_of_mem_padded hc) hrest
  have hdrop (n : Nat) : (padded 4 n ++ rest).dropWhile isDigit = rest :=
    dropWhile_isDigit_append (fun _ hc => isDigit_of_mem_padded hc) hrest
  have hsigned {c : Char} (hc : isBlank c = false) (s : List Char) : trimLeft (c :: s) = c :: s :=
    trimLeft_eq_self (by simp [hc])
  unfold yearText
  split
  · rename_i hfour
    simp only [Bool.and_eq_true, decide_eq_true_eq] at hfour
    have hread := readNumber_padded (n := y.toNat) (by decide : 0 < 4) (by omega) rest
    have hy : (y.toNat : Int) = y := by omega
    rw [readYear, trimLeft_padded]
    split
    · rename_i heq
      exact absurd heq (padded_append_ne_cons rfl rest _)
    · rename_i heq
      exact absurd heq (padded_append_ne_cons rfl rest _)
    · rw [hread, Option.map_some, hy]
  · split
    · have hy : -(y.natAbs : Int) = y := by omega
      rw [List.cons_append, readYear, hsigned rfl]
      simp only [htake, hdrop, hsome, Bool.false_eq_true, if_false, if_true, ofDigits_padded, hy]
    · have hy : (y.toNat : Int) = y := by omega
      rw [List.cons_append, readYear, hsigned rfl]
      simp only [htake, hdrop, hsome, Bool.false_eq_true, if_false, ofDigits_padded, hy]

theorem bounds_of_isValid {d : Date} (hd : d.isValid = true) :
    d.month < 10 ^ 2 ∧ d.day < 10 ^ 2 := by
  simp only [isValid, Bool.and_eq_true, decide_eq_true_eq, Option.any_eq_true] at hd
  obtain ⟨-, n, hn, hday⟩ := hd
  have hmonth : d.month - 1 < 12 := (List.getElem?_eq_some_iff.mp hn).1
  have hlengths : ∀ leap, ∀ n ∈ monthLengths leap, n ≤ 31 := by decide
  have hlength := hlengths _ n (List.mem_of_getElem? hn)
  omega

theorem read?_text {d : Date} (hd : d.isValid = true) : read? d.text = some d := by
  obtain ⟨hmonth, hday⟩ := bounds_of_isValid hd
  have hdash (s : List Char) : readYear (yearText d.year ++ '-' :: s) = some (d.year, '-' :: s) :=
    readYear_yearText d.year (by simp [isDigit])
  have hmonths := readNumber_padded (by decide) hmonth ('-' :: padded 2 d.day)
  have hdays := readNumber_padded (by decide) hday []
  rw [List.append_nil] at hdays
  rw [text, List.append_assoc, List.cons_append, read?, hdash]
  simp only [hmonths, hdays, hd, if_true]

theorem isValid_of_read? {s : List Char} {d : Date} (h : read? s = some d) : d.isValid = true := by
  unfold read? at h
  split at h <;> try cases h
  split at h <;> try cases h
  split at h <;> try cases h
  simp only [Option.ite_none_right_eq_some, Option.some.injEq] at h
  exact h.2 ▸ h.1

theorem text_ne_nil (d : Date) : d.text ≠ [] := by
  simp [text]

theorem quote_not_mem_text (d : Date) : '"' ∉ d.text := by
  have hpadded (width n : Nat) : '"' ∉ padded width n := by
    intro hmem
    cases isDigit_of_mem_padded hmem
  have hyear : '"' ∉ yearText d.year := by
    unfold yearText
    split
    · exact hpadded 4 _
    · split <;> simp [hpadded]
  simp [text, hyear, hpadded]

theorem total_monthLengths (leap : Bool) :
    total (monthLengths leap) = if leap = true then 366 else 365 := by
  cases leap <;> rfl

section Parts

variable (era : Int) {century quad year : Nat} (hcentury : century ≤ 3) (hquad : quad ≤ 24)
  (hyear : year ≤ 3)

include hcentury hquad hyear

theorem daysBeforeYear_parts :
    daysBeforeYear (400 * era + (100 * century + 4 * quad + year + 1 : Nat)) =
      146097 * era + (36524 * century + 1461 * quad + 365 * year : Nat) := by
  rw [daysBeforeYear]
  omega

theorem total_monthLengths_parts :
    total (monthLengths (isLeap (400 * era + (100 * century + 4 * quad + year + 1 : Nat)))) =
      if year = 3 ∧ (quad = 24 → century = 3) then 366 else 365 := by
  rw [total_monthLengths]
  simp only [isLeap, Bool.and_eq_true, Bool.or_eq_true, beq_iff_eq, bne_iff_ne]
  refine if_congr ?_ rfl rfl
  omega

end Parts

theorem ofDays_spec (n : Int) : ∃ (year : Int) (day : Nat),
    daysBeforeYear year + day = n + epochDay ∧ day < total (monthLengths (isLeap year)) ∧
      ofDays n = ⟨year, (monthAndDay 1 day (monthLengths (isLeap year))).1,
        (monthAndDay 1 day (monthLengths (isLeap year))).2⟩ := by
  refine ⟨_, _, ?_, ?_, rfl⟩
  · rw [daysBeforeYear_parts _ (by omega) (by omega) (by omega)]
    omega
  · rw [total_monthLengths_parts _ (by omega) (by omega) (by omega)]
    split <;> omega

theorem monthAndDay_spec (month : Nat) {day : Nat} {lengths : List Nat} (h : day < total lengths) :
    ∃ i d n, monthAndDay month day lengths = (month + i, d + 1) ∧ lengths[i]? = some n ∧ d < n ∧
      total (lengths.take i) + d = day := by
  induction lengths generalizing month day with
  | nil => exact absurd h (Nat.not_lt_zero day)
  | cons n lengths ih =>
    rw [total] at h
    rw [monthAndDay]
    split
    · rename_i hday
      exact ⟨0, day, n, rfl, rfl, hday, Nat.zero_add day⟩
    · obtain ⟨i, d, k, heq, hk, hd, htotal⟩ := @ih (month + 1) (day - n) (by omega)
      refine ⟨i + 1, d, k, ?_, hk, hd, ?_⟩
      · rw [heq, Nat.add_assoc, Nat.add_comm 1 i]
      · rw [List.take_succ_cons, total]
        omega

theorem toDays_ofDays (n : Int) : (ofDays n).toDays = n := by
  obtain ⟨year, day, hday, hlt, heq⟩ := ofDays_spec n
  obtain ⟨i, d, k, hmonth, -, -, htotal⟩ := monthAndDay_spec 1 hlt
  rw [heq, hmonth, toDays, Nat.add_sub_cancel_left]
  push_cast
  omega

theorem daysBeforeYear_succ (y : Int) :
    daysBeforeYear (y + 1) = daysBeforeYear y + total (monthLengths (isLeap y)) := by
  rw [total_monthLengths]
  simp only [daysBeforeYear, isLeap, Bool.and_eq_true, Bool.or_eq_true, beq_iff_eq, bne_iff_ne]
  split <;> omega

theorem daysBeforeYear_mono {x y : Int} (h : x ≤ y) : daysBeforeYear x ≤ daysBeforeYear y := by
  rw [daysBeforeYear, daysBeforeYear]
  omega

theorem isValid_ofDays {n : Int} (hfirst : (Date.mk firstYear 1 1).toDays ≤ n)
    (hlast : n ≤ (Date.mk lastYear 12 31).toDays) : (ofDays n).isValid = true := by
  obtain ⟨year, day, hday, hlt, heq⟩ := ofDays_spec n
  obtain ⟨i, d, k, hmonth, hk, hd, -⟩ := monthAndDay_spec 1 hlt
  have hnext := daysBeforeYear_succ year
  have hyear : firstYear ≤ year ∧ year ≤ lastYear := by
    constructor
    · by_contra hbefore
      have hle : daysBeforeYear (year + 1) ≤ daysBeforeYear firstYear :=
        daysBeforeYear_mono (by omega)
      have hstart : (Date.mk firstYear 1 1).toDays = daysBeforeYear firstYear - epochDay := rfl
      omega
    · by_contra hafter
      have hle : daysBeforeYear (lastYear + 1) ≤ daysBeforeYear year :=
        daysBeforeYear_mono (by omega)
      have hend : (Date.mk lastYear 12 31).toDays = daysBeforeYear (lastYear + 1) - 1 - epochDay :=
        rfl
      omega
  rw [heq, hmonth]
  have hlow : 1 ≤ 1 + i := by omega
  have hhigh : d + 1 ≤ k := hd
  simp only [isValid, hyear, hlow, hhigh, Nat.add_sub_cancel_left, hk, Option.any_some,
    Nat.le_add_left, decide_true, Bool.and_true]

end Letterbox.Date
