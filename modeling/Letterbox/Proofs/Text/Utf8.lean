import Letterbox.Text.Utf8
import Mathlib.Data.List.Basic

namespace Letterbox.Text

theorem not_isTail_of_ascii {b : UInt8} (hb : b < 0x80) : isTail b = false := by
  have hlow : ¬ (0x80 ≤ b) := UInt8.not_le.mpr hb
  simp [isTail, hlow]

theorem not_fitsSecond_of_ascii {b : UInt8} (hb : b < 0x80) (first : UInt8) :
    fitsSecond first b = false := by
  have hlow : 0x80 ≤ (secondRange first).1 := by
    unfold secondRange
    split
    · decide
    · split
      · decide
      · split
        · decide
        · split <;> decide
  have hnot : ¬ ((secondRange first).1 ≤ b) := fun hle =>
    UInt8.not_le.mpr hb (UInt8.le_trans hlow hle)
  simp [fitsSecond, hnot]

theorem readChar_append_ascii (first : UInt8) (s : Bytes) {b : UInt8} (hb : b < 0x80)
    (rest : Bytes) : readChar first (s ++ b :: rest) = readChar first s := by
  have htail := not_isTail_of_ascii hb
  have hsecond := not_fitsSecond_of_ascii hb first
  match s with
  | [] => simp [readChar, htail, hsecond]
  | [c] => simp [readChar, htail]
  | [c, d] => simp [readChar, htail]
  | c :: d :: e :: s => simp [readChar]

theorem readChar_le (first : UInt8) (s : Bytes) : (readChar first s).2 ≤ s.length := by
  fun_cases readChar first s <;> simp

theorem readChars_append_ascii (s : Bytes) {b : UInt8} (hb : b < 0x80) (rest : Bytes) :
    readChars (s ++ b :: rest) = readChars s ++ some (Char.ofNat b.toNat) :: readChars rest := by
  induction s using readChars.induct with
  | case1 =>
    have hfirst : readChar b rest = (some (Char.ofNat b.toNat), 0) := if_pos hb
    simp only [List.nil_append, readChars, hfirst, List.drop_zero]
  | case2 first s r ih =>
    have hdrop : (s ++ b :: rest).drop r.2 = s.drop r.2 ++ b :: rest :=
      List.drop_append_of_le_length (readChar_le first s)
    rw [List.cons_append, readChars, readChar_append_ascii first s hb, hdrop, ih, readChars]
    rfl

theorem decode_append_ascii (s : Bytes) {b : UInt8} (hb : b < 0x80) (rest : Bytes) :
    decode (s ++ b :: rest) = decode s ++ Char.ofNat b.toNat :: decode rest := by
  rw [decode, readChars_append_ascii s hb, List.map_append]
  rfl

end Letterbox.Text
