import Letterbox.Proofs.Text.Case
import Mathlib.Data.String.Basic

namespace Letterbox.Text

theorem toLower_eq_of_ascii {β : Type} {f : Char → β}
    (hascii : ∀ n < 128, f (Char.ofNat n).toLower = f (Char.ofNat n)) (c : Char) :
    f c.toLower = f c := by
  by_cases hc : c.toNat < 128
  · have h := hascii c.toNat hc
    rwa [Char.ofNat_toNat] at h
  · rw [toLower_of_not_isCapital]
    rintro ⟨-, hle⟩
    omega

theorem lowerChar_toLower (c : Char) : lowerChar c.toLower = lowerChar c :=
  toLower_eq_of_ascii (by decide) c

theorem isCased_toLower (c : Char) : isCased c.toLower = isCased c :=
  toLower_eq_of_ascii (by decide) c

theorem isCaseIgnorable_toLower (c : Char) : isCaseIgnorable c.toLower = isCaseIgnorable c :=
  toLower_eq_of_ascii (by decide) c

theorem isSigma_toLower (c : Char) : (c.toLower == 'Σ') = (c == 'Σ') :=
  toLower_eq_of_ascii (f := fun c => c == 'Σ') (by decide) c

theorem utf8Size_toLower (c : Char) : c.toLower.utf8Size = c.utf8Size :=
  toLower_eq_of_ascii (by decide) c

theorem meetsCased_cons (c : Char) (s : List Char) :
    meetsCased (c :: s) = if isCaseIgnorable c then meetsCased s else isCased c := by
  cases hc : isCaseIgnorable c <;> simp [meetsCased, hc]

theorem meetsCased_lowerAscii (s : List Char) : meetsCased (lowerAscii s) = meetsCased s := by
  induction s with
  | nil => rfl
  | cons c s ih =>
    rw [lowerAscii, List.map_cons, meetsCased_cons, meetsCased_cons, isCaseIgnorable_toLower,
      isCased_toLower]
    exact congrArg (if isCaseIgnorable c = true then · else isCased c) ih

theorem lowerAfter_lowerAscii (before s : List Char) :
    lowerAfter (lowerAscii before) (lowerAscii s) = lowerAfter before s := by
  induction s generalizing before with
  | nil => rfl
  | cons c s ih =>
    have hbefore := meetsCased_lowerAscii before
    have hafter := meetsCased_lowerAscii s
    have hrest := ih (c :: before)
    simp only [lowerAscii, List.map_cons] at hbefore hafter hrest ⊢
    rw [lowerAfter, lowerAfter, hrest, hbefore, hafter, isSigma_toLower, lowerChar_toLower]

theorem lower_lowerAscii (s : List Char) : lower (lowerAscii s) = lower s :=
  lowerAfter_lowerAscii [] s

theorem lower_eq_of_sameAscii {a b : List Char} (h : sameAscii a b = true) : lower a = lower b := by
  rw [sameAscii, beq_iff_eq] at h
  rw [← lower_lowerAscii a, h, lower_lowerAscii]

theorem utf8Len_lowerAscii (s : List Char) : String.utf8Len (lowerAscii s) = String.utf8Len s := by
  induction s with
  | nil => rfl
  | cons c s ih =>
    rw [lowerAscii, List.map_cons, String.utf8Len_cons, String.utf8Len_cons, utf8Size_toLower]
    exact congrArg (· + c.utf8Size) ih

namespace Wildcard

theorem length_encode_escape_cons (c : Char) (v : List Char) :
    (encode (escape (c :: v))).length =
      (encode (escape [c])).length + (encode (escape v)).length := by
  simp [encode, escape]

theorem length_encode_containing (v : List Char) :
    (encode (containing v)).length = (encode (escape v)).length + 2 := by
  have hsigns : encode (containing v) = encode ['%'] ++ (encode (escape v) ++ encode ['%']) := by
    simp [encode, containing]
  have hsign : (encode ['%']).length = 1 := by decide
  rw [hsigns, List.length_append, List.length_append, hsign]
  omega

theorem length_lt_encode_containing (v : List Char) : v.length < (encode (containing v)).length := by
  have hescape : v.length ≤ (encode (escape v)).length := by
    induction v with
    | nil => exact Nat.zero_le _
    | cons c v ih =>
      have hone : 0 < (encode (escape [c])).length := by
        simp only [escape, List.flatMap_cons, List.flatMap_nil, List.append_nil]
        split <;> simp [encode, String.length_utf8EncodeChar, Char.utf8Size_pos]
      rw [length_encode_escape_cons, List.length_cons]
      omega
  rw [length_encode_containing]
  omega

theorem length_encode_escape_lowerAscii (v : List Char) :
    (encode (escape (lowerAscii v))).length = (encode (escape v)).length := by
  have hone (c : Char) : (encode (escape [c.toLower])).length = (encode (escape [c])).length :=
    toLower_eq_of_ascii (f := fun c => (encode (escape [c])).length) (by decide) c
  induction v with
  | nil => rfl
  | cons c v ih =>
    have hascii : lowerAscii (c :: v) = c.toLower :: lowerAscii v := rfl
    rw [hascii, length_encode_escape_cons, length_encode_escape_cons c, hone, ih]

theorem isTooLong_lowerAscii (v : List Char) :
    isTooLong (containing (lowerAscii v)) = isTooLong (containing v) := by
  simp only [isTooLong, length_encode_containing, length_encode_escape_lowerAscii]

theorem isNul_toLower (c : Char) : (c.toLower == '\x00') = (c == '\x00') :=
  toLower_eq_of_ascii (f := fun c => c == '\x00') (by decide) c

theorem isWhole_lowerAscii {v : List Char} : IsWhole (lowerAscii v) ↔ IsWhole v := by
  have hnul (c : Char) : c.toLower = '\x00' ↔ c = '\x00' := by
    rw [← beq_iff_eq, isNul_toLower, beq_iff_eq]
  simp [IsWhole, lowerAscii, hnul]

theorem upToNul_lowerAscii (s : List Char) :
    upToNul (lowerAscii s) = lowerAscii (upToNul s) := by
  have hsame : ((· != '\x00') ∘ Char.toLower) = fun c => c != '\x00' := by
    funext c
    exact congrArg not (isNul_toLower c)
  rw [upToNul, lowerAscii, List.takeWhile_map, hsame]
  rfl

theorem asRead_toLower_iff (c : Char) : asRead c.toLower = '\uFFFD' ↔ asRead c = '\uFFFD' := by
  have h := toLower_eq_of_ascii (f := fun c => asRead c == '\uFFFD') (by decide) c
  rwa [Bool.eq_iff_iff, beq_iff_eq, beq_iff_eq] at h

def ToldApart (v text : List Char) : Prop :=
  ∀ c ∈ v, ∀ d ∈ text, asRead c = asRead d → c = d

instance (v text : List Char) : Decidable (ToldApart v text) :=
  letI (c : Char) : Decidable (∀ d ∈ text, asRead c = asRead d → c = d) :=
    List.decidableBAll (fun d => asRead c = asRead d → c = d) text
  List.decidableBAll (fun c => ∀ d ∈ text, asRead c = asRead d → c = d) v

theorem ToldApart.lowerAscii {v text : List Char} (h : ToldApart v text) :
    ToldApart (lowerAscii v) (lowerAscii text) := by
  intro c' hc' d' hd' heq
  obtain ⟨c, hc, rfl⟩ := List.mem_map.mp hc'
  obtain ⟨d, hd, rfl⟩ := List.mem_map.mp hd'
  by_cases hreplaced : asRead c.toLower = '\uFFFD'
  · -- neither is a letter then, so that they are read alike in either case
    have hread := (asRead_toLower_iff c).mp hreplaced
    have hother := (asRead_toLower_iff d).mp (heq ▸ hreplaced)
    rw [h c hc d hd (hread.trans hother.symm)]
  · exact (eq_of_asRead_eq hreplaced heq.symm).symm

theorem folded_infix_iff {v text : List Char} (h : ToldApart v text) :
    folded v <:+: folded text ↔ Text.lowerAscii v <:+: Text.lowerAscii text := by
  constructor
  · intro hfound
    obtain ⟨part, hpart, heq⟩ := List.infix_map_iff.mp hfound
    have hsame : Text.lowerAscii v = part :=
      eq_of_reading_eq (fun c hc d hd => h.lowerAscii c hc d (hpart.subset hd)) heq
    exact hsame ▸ hpart
  · intro hpart
    exact hpart.map asRead

theorem matches?_containing_congr {v w : List Char} (hv : IsWhole v)
    (h : lowerAscii w = lowerAscii v) : matches? (containing w) = matches? (containing v) := by
  have hw : IsWhole w := isWhole_lowerAscii.mp (h ▸ isWhole_lowerAscii.mpr hv)
  funext text
  rw [Bool.eq_iff_iff, matches?_containing_upToNul hw, matches?_containing_upToNul hv, folded, h,
    ← folded]

end Wildcard

end Letterbox.Text
