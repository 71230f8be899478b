import Letterbox.Proofs.Time.Date
import Letterbox.Time.Timestamp

namespace Letterbox.Instant

open Text

theorem firstSecond_eq : firstSecond = -8334601228800 :=
  rfl

theorem lastSecond_eq : lastSecond = 8210266876799 :=
  rfl

theorem bounds_of_isDated {t : Instant} (ht : t.isDated = true) :
    firstSecond ≤ t.seconds ∧ t.seconds ≤ lastSecond := by
  simp only [isDated, Bool.and_eq_true, decide_eq_true_eq] at ht
  exact ht.1

theorem millis_ofMillis (ms : Int) : (ofMillis ms).millis = ms := by
  have hnanos : (ms % 1000).toNat * 1000000 / 1000000 = (ms % 1000).toNat :=
    Nat.mul_div_cancel _ (by decide)
  simp only [millis, ofMillis, hnanos]
  omega

theorem seconds_ofMillis_millis {t : Instant} (ht : t.isDated = true) :
    (ofMillis t.millis).seconds = t.seconds := by
  simp only [isDated, isLeapSecond, Bool.and_eq_true, Bool.not_eq_true', decide_eq_false_iff_not]
    at ht
  have hnanos : t.nanos / 1000000 < 1000 := by omega
  simp only [millis, ofMillis]
  omega

theorem isDated_of_ofSeconds? {s : Int} {t : Instant} (h : ofSeconds? s = some t) :
    t.isDated = true := by
  simp only [ofSeconds?] at h
  split at h
  · rename_i hdated
    cases h
    exact hdated
  · cases h

structure IsRepresentable (t : Instant) : Prop where
  dated : firstSecond ≤ t.seconds ∧ t.seconds ≤ lastSecond
  nanos : t.nanos < 2000000000
  leap : 1000000000 ≤ t.nanos → t.seconds % 60 = 59

theorem afterMark?_cons {c : Char} (hc : isBlank c = false) (s : List Char) :
    afterMark? c (c :: s) = some s := by
  have htrim : trimLeft (c :: s) = c :: s := trimLeft_eq_self (by simp [hc])
  simp [afterMark?, htrim]

theorem readDate_text {d : Date} (hd : d.isValid = true) (rest : List Char) :
    readDate (d.text ++ rest) = some (d, rest) := by
  obtain ⟨hmonth, hday⟩ := Date.bounds_of_isValid hd
  have hdash : isBlank '-' = false := rfl
  have hyear (s : List Char) : Date.readYear (Date.yearText d.year ++ '-' :: s) =
      some (d.year, '-' :: s) := Date.readYear_yearText d.year (by simp [isDigit])
  have hmonths (s : List Char) := Date.readNumber_padded (by decide) hmonth s
  have hdays := Date.readNumber_padded (by decide) hday rest
  simp only [Date.text, List.append_assoc, List.cons_append]
  simp only [readDate, hyear, afterMark?_cons hdash, hmonths, hdays, Option.bind_eq_bind,
    Option.bind_some, hd, if_true]

theorem readFraction_padded {width n : Nat} (hwidth : 0 < width ∧ width ≤ 9)
    (hn : n < 10 ^ width) : readFraction ('.' :: padded width n ++ ['Z']) =
      some (n * 10 ^ (9 - width), ['Z']) := by
  have hdigits : ∀ c ∈ padded width n, isDigit c = true := fun _ => isDigit_of_mem_padded
  have hend : ∀ c ∈ ['Z'].head?, isDigit c = false := by simp [isDigit]
  have hlength := length_padded hwidth.1 hn
  have htake : (padded width n).take 9 = padded width n := List.take_of_length_le (by omega)
  have hsome : (padded width n).isEmpty = false := by simpa using padded_ne_nil width n
  rw [List.cons_append, readFraction]
  simp only [takeWhile_isDigit_append hdigits hend, dropWhile_isDigit_append hdigits hend, htake,
    hsome, hlength, ofDigits_padded, Bool.false_eq_true, if_false]
  rfl

theorem readFraction_fractionText {n : Nat} (hn : n < 1000000000) :
    readFraction (fractionText n ++ ['Z']) = some (n, ['Z']) := by
  rw [fractionText]
  split
  · rename_i hzero
    rw [eq_of_beq hzero]
    rfl
  · split
    · rename_i hmillis
      have hexact : n / 1000000 * 10 ^ (9 - 3) = n :=
        Nat.div_mul_cancel (Nat.dvd_of_mod_eq_zero (eq_of_beq hmillis))
      rw [readFraction_padded (by decide) (by omega), hexact]
    · split
      · rename_i hmicros
        have hexact : n / 1000 * 10 ^ (9 - 6) = n :=
          Nat.div_mul_cancel (Nat.dvd_of_mod_eq_zero (eq_of_beq hmicros))
        rw [readFraction_padded (by decide) (by omega), hexact]
      · rw [readFraction_padded (by decide) hn, Nat.sub_self, Nat.pow_zero, Nat.mul_one]

theorem readTime_padded {hour minute second nanos : Nat} (hhour : hour < 24) (hminute : minute < 60)
    (hsecond : second ≤ 60) (hnanos : nanos < 1000000000) :
    readTime (padded 2 hour ++ ':' :: (padded 2 minute ++ ':' :: (padded 2 second ++
        (fractionText nanos ++ ['Z'])))) =
      some ((hour * 3600 + minute * 60 + second - (if second == 60 then 1 else 0),
        nanos + (if second == 60 then 1 else 0) * 1000000000), ['Z']) := by
  have hcolon : isBlank ':' = false := rfl
  have htwo {n : Nat} (hn : n < 100) (s : List Char) :
      Date.readNumber 2 (padded 2 n ++ s) = some (n, s) := Date.readNumber_padded (by decide) hn s
  have hlimits : (decide (hour < 24) && decide (minute < 60) && decide (second ≤ 60)) = true := by
    simp [hhour, hminute, hsecond]
  simp only [readTime, htwo (by omega : hour < 100), htwo (by omega : minute < 100),
    htwo (by omega : second < 100), afterMark?_cons hcolon, readFraction_fractionText hnanos,
    Option.bind_eq_bind, Option.bind_some, hlimits, if_true]

theorem readChars_chars {t : Instant} (ht : t.IsRepresentable) : readChars t.chars = some t := by
  obtain ⟨⟨hfirst, hlast⟩, hnanos, hleap⟩ := ht
  have hdate : (Date.ofDays (t.seconds / 86400)).isValid = true := by
    refine Date.isValid_ofDays ?_ ?_
    · rw [firstSecond] at hfirst
      omega
    · rw [lastSecond] at hlast
      omega
  -- a leap second is written as second 60, which nothing else is
  obtain ⟨leap, hleap, ⟨hle, hlt⟩, hsecond, hsixty⟩ :
      ∃ leap, (if t.isLeapSecond then 1 else 0) = leap ∧
        (leap * 1000000000 ≤ t.nanos ∧ t.nanos - leap * 1000000000 < 1000000000) ∧
        (t.seconds % 86400).toNat % 60 + leap ≤ 60 ∧
        (if (t.seconds % 86400).toNat % 60 + leap == 60 then 1 else 0) = leap := by
    by_cases hnine : 1000000000 ≤ t.nanos
    · have hsecond : (t.seconds % 86400).toNat % 60 = 59 := by
        have hlast := hleap hnine
        omega
      refine ⟨1, by simp [isLeapSecond, hnine], ?_, by rw [hsecond], by simp [hsecond]⟩
      rw [Nat.one_mul]
      omega
    · have hsecond : (t.seconds % 86400).toNat % 60 ≠ 60 := by omega
      refine ⟨0, by simp [isLeapSecond, hnine], ?_, by omega, by simp [hsecond]⟩
      rw [Nat.zero_mul]
      omega
  have hhour : (t.seconds % 86400).toNat / 3600 < 24 := by omega
  have hminute : (t.seconds % 86400).toNat / 60 % 60 < 60 := by omega
  have htime := readTime_padded hhour hminute hsecond hlt
  have hzone : readZone (trimLeft ['Z']) = some (0, []) := by decide
  have hback : t.seconds / 86400 * 86400 + ((t.seconds % 86400).toNat / 3600 * 3600 +
      (t.seconds % 86400).toNat / 60 % 60 * 60 + ((t.seconds % 86400).toNat % 60 + leap) - leap :
        Nat) - 0 = t.seconds := by
    omega
  have hdated : ((trimLeft []).isEmpty && decide (firstSecond ≤ t.seconds) &&
      decide (t.seconds ≤ lastSecond)) = true := by
    simp [hfirst, hlast, trimLeft]
  simp only [chars, hleap, List.append_assoc, List.cons_append]
  simp only [readChars, readDate_text hdate, htime, hsixty, hzone, Option.bind_eq_bind,
    Option.bind_some, Date.toDays_ofDays, hback, hdated, Nat.sub_add_cancel hle]
  rfl

theorem read?_text {t : Instant} (ht : t.IsRepresentable) : read? t.text = some t := by
  rw [read?, text, String.toList_ofList, readChars_chars ht]

example : read? (text ⟨59, 1500000000⟩) = some ⟨59, 1500000000⟩ := by
  decide +kernel

theorem readFraction_lt {s rest : List Char} {nanos : Nat}
    (h : readFraction s = some (nanos, rest)) : nanos < 1000000000 := by
  unfold readFraction at h
  split at h
  · rename_i s
    dsimp only at h
    split at h
    · cases h
    · simp only [Option.some.injEq, Prod.mk.injEq] at h
      have hdigits : ∀ c ∈ (s.takeWhile isDigit).take 9, isDigit c = true :=
        fun c hc => List.mem_takeWhile_imp (List.mem_of_mem_take hc)
      have hlt := ofDigits_lt hdigits
      have hlength : ((s.takeWhile isDigit).take 9).length ≤ 9 := List.length_take_le _ _
      generalize (s.takeWhile isDigit).take 9 = nine at *
      calc nanos = ofDigits nine * 10 ^ (9 - nine.length) := h.1.symm
        _ < 10 ^ nine.length * 10 ^ (9 - nine.length) :=
          Nat.mul_lt_mul_of_pos_right hlt (Nat.pow_pos (by decide))
        _ = 10 ^ 9 := by rw [← Nat.pow_add, Nat.add_sub_cancel' hlength]
  · cases h
    decide

theorem readTime_spec {s rest : List Char} {seconds nanos : Nat}
    (h : readTime s = some ((seconds, nanos), rest)) :
    nanos < 2000000000 ∧ (1000000000 ≤ nanos → seconds % 60 = 59) := by
  simp only [readTime, Option.bind_eq_bind, Option.bind_eq_some_iff] at h
  obtain ⟨⟨hour, _⟩, -, _, -, ⟨minute, _⟩, -, _, -, ⟨second, _⟩, -, ⟨fraction, _⟩, hfraction, h⟩ := h
  have hlt := readFraction_lt hfraction
  dsimp only at h
  split at h
  · simp only [Option.some.injEq, Prod.mk.injEq, beq_iff_eq] at h
    obtain ⟨⟨hseconds, hnanos⟩, -⟩ := h
    by_cases hsixty : second = 60 <;> simp only [hsixty, if_true, if_false] at hseconds hnanos <;>
      omega
  · cases h

theorem readOffset_spec {s rest : List Char} {ahead : Int}
    (h : readOffset s = some (ahead, rest)) : ahead % 60 = 0 := by
  -- every form of a zone counts whole hours and minutes
  simp only [readOffset] at h
  repeat' split at h
  all_goals simp only [Option.some.injEq, Prod.mk.injEq, reduceCtorEq] at h
  all_goals omega

theorem readZone_spec {s rest : List Char} {ahead : Int} (h : readZone s = some (ahead, rest)) :
    ahead % 60 = 0 := by
  unfold readZone at h
  split at h
  · cases h
    rfl
  · exact readOffset_spec h

theorem isRepresentable_of_read? {s : String} {t : Instant} (h : read? s = some t) :
    t.IsRepresentable := by
  simp only [read?, readChars, Option.bind_eq_bind, Option.bind_eq_some_iff] at h
  obtain ⟨⟨date, rest⟩, -, h⟩ := h
  dsimp only at h
  split at h
  · split at h
    · simp only [Option.bind_some, Option.bind_eq_some_iff] at h
      obtain ⟨⟨⟨seconds, nanos⟩, _⟩, htime, ⟨ahead, _⟩, hzone, h⟩ := h
      obtain ⟨hnanos, hleap⟩ := readTime_spec htime
      have hahead := readZone_spec hzone
      simp only [Option.ite_none_right_eq_some, Bool.and_eq_true, decide_eq_true_eq,
        Option.some.injEq] at h
      obtain ⟨⟨⟨-, hfirst⟩, hlast⟩, rfl⟩ := h
      refine ⟨⟨hfirst, hlast⟩, hnanos, fun hnine => ?_⟩
      have hminute := hleap hnine
      dsimp only
      omega
    · cases h
  · cases h

end Letterbox.Instant
