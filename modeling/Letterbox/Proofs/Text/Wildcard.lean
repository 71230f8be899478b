import Letterbox.Text.Wildcard
import Mathlib.Data.List.Infix
import Mathlib.Data.List.TakeWhile

namespace Letterbox.Text.Wildcard

def IsWhole (s : List Char) : Prop :=
  '\x00' ∉ s

instance (s : List Char) : Decidable (IsWhole s) :=
  inferInstanceAs (Decidable (_ ∉ _))

/-- What patterns read of a text. -/
def reading (s : List Char) : List Char :=
  s.map asRead

def folded (s : List Char) : List Char :=
  reading (lowerAscii s)

theorem asRead_of_ne {c : Char} (h : asRead c ≠ '\uFFFD') : asRead c = c := by
  unfold asRead at h ⊢
  split
  · rename_i hmerged
    exact absurd (if_pos hmerged) h
  · rfl

theorem eq_of_asRead_eq {c d : Char} (hc : asRead c ≠ '\uFFFD') (h : asRead d = asRead c) :
    d = c := by
  have hd : asRead d ≠ '\uFFFD' := h ▸ hc
  rw [← asRead_of_ne hd, h, asRead_of_ne hc]

theorem eq_of_reading_eq {s t : List Char} (h : ∀ c ∈ s, ∀ d ∈ t, asRead c = asRead d → c = d)
    (hreading : reading s = reading t) : s = t := by
  induction s generalizing t with
  | nil => exact (List.map_eq_nil_iff.mp hreading.symm).symm
  | cons c s ih =>
    obtain ⟨d, t, rfl, hfirst, hrest⟩ := List.map_eq_cons_iff.mp hreading.symm
    have hsame := h c List.mem_cons_self d List.mem_cons_self hfirst.symm
    have htail := ih (fun a ha b hb => h a (List.mem_cons_of_mem c ha) b (List.mem_cons_of_mem d hb))
      hrest.symm
    rw [hsame, htail]

theorem reading_append (s text : List Char) : reading (s ++ text) = reading s ++ reading text :=
  List.map_append

theorem folded_append (s text : List Char) : folded (s ++ text) = folded s ++ folded text := by
  rw [folded, lowerAscii, List.map_append, reading_append]
  rfl

theorem folded_infix {v text : List Char} (h : v <:+: text) : folded v <:+: folded text :=
  (h.map Char.toLower).map asRead

theorem upToNul_append {s : List Char} (hs : IsWhole s) (text : List Char) :
    upToNul (s ++ text) = s ++ upToNul text := by
  refine List.takeWhile_append_of_pos ?_
  intro c hc
  have hne : c ≠ '\x00' := fun heq => hs (heq ▸ hc)
  simpa using hne

theorem upToNul_of_isWhole {s : List Char} (hs : IsWhole s) : upToNul s = s := by
  simpa [upToNul] using upToNul_append hs []

theorem isWhole_append {s text : List Char} : IsWhole (s ++ text) ↔ IsWhole s ∧ IsWhole text := by
  rw [IsWhole, List.mem_append, not_or]
  exact Iff.rfl

theorem isWhole_containing {v : List Char} (hv : IsWhole v) : IsWhole (containing v) := by
  have hescape : '\x00' ∉ escape v := by
    simp only [escape, List.mem_flatMap, not_exists, not_and]
    intro c hc hmem
    split at hmem
    · simp only [List.mem_cons, List.not_mem_nil, or_false] at hmem
      rcases hmem with heq | heq
      · cases heq
      · exact hv (heq ▸ hc)
    · exact hv (List.mem_singleton.mp hmem ▸ hc)
  simp [IsWhole, containing, hescape]

theorem items?_cons {c : Char} (h : c ≠ '\\') (rest : List Char) :
    items? (c :: rest) =
      if c == '%' then (items? rest).map (.any :: ·)
      else if c == '_' then (items? rest).map (.one :: ·)
      else (items? rest).map (.char c :: ·) := by
  have hslash : (c == '\\') = false := by simpa using h
  rw [items?]
  · simp only [hslash, Bool.false_eq_true, if_false]
  · intro d tail heq
    exact fun _ => h heq

theorem items?_escape (v rest : List Char) :
    items? (escape v ++ rest) = (items? rest).map (v.map .char ++ ·) := by
  induction v with
  | nil => simp [escape]
  | cons c v ih =>
    have hescape : escape (c :: v) ++ rest =
        (if c == '%' || c == '_' || c == '\\' then ['\\', c] else [c]) ++ (escape v ++ rest) := by
      simp [escape]
    rw [hescape]
    split
    · simp [items?, ih, Function.comp_def]
    · rename_i hplain
      simp only [Bool.or_eq_true, beq_iff_eq, not_or] at hplain
      obtain ⟨⟨hpercent, hline⟩, hslash⟩ := hplain
      rw [List.singleton_append, items?_cons hslash, if_neg (by simpa using hpercent),
        if_neg (by simpa using hline), ih]
      simp [Function.comp_def]

theorem items?_containing (v : List Char) :
    items? (containing v) = some (.any :: (v.map .char ++ [.any])) := by
  rw [containing, items?_cons (by decide), if_pos (by decide), items?_escape]
  rfl

theorem fits_any_iff (items : List Item) (text : List Char) :
    fits (.any :: items) text = true ↔ ∃ before after, text = before ++ after ∧
      fits items after = true := by
  induction text with
  | nil =>
    rw [fits]
    constructor
    · intro h
      exact ⟨[], [], rfl, h⟩
    · rintro ⟨before, after, heq, h⟩
      obtain ⟨-, rfl⟩ := List.append_eq_nil_iff.mp heq.symm
      exact h
  | cons c text ih =>
    rw [fits, Bool.or_eq_true, ih]
    constructor
    · rintro (h | ⟨before, after, rfl, h⟩)
      · exact ⟨[], c :: text, rfl, h⟩
      · exact ⟨c :: before, after, rfl, h⟩
    · rintro ⟨before, after, heq, h⟩
      cases before with
      | nil => exact Or.inl (heq ▸ h)
      | cons d before =>
        obtain ⟨rfl, rfl⟩ := List.cons.inj heq
        exact Or.inr ⟨before, after, rfl, h⟩

theorem fits_any (text : List Char) : fits [.any] text = true :=
  (fits_any_iff [] text).mpr ⟨text, [], by simp, by simp [fits]⟩

theorem fits_chars_iff (v text : List Char) :
    fits (v.map .char ++ [.any]) text = true ↔ folded v <+: folded text := by
  induction v generalizing text with
  | nil => simp [folded, reading, lowerAscii, fits_any]
  | cons d v ih =>
    cases text with
    | nil => simp [fits, folded, reading, lowerAscii]
    | cons c text =>
      simp only [List.map_cons, List.cons_append, fits, Bool.and_eq_true, ih, sameLetter,
        beq_iff_eq, folded, reading, lowerAscii, List.cons_prefix_cons]
      rw [eq_comm]

theorem matches?_containing_upToNul {v : List Char} (hv : IsWhole v) (text : List Char) :
    matches? (containing v) text = true ↔ folded v <:+: folded (upToNul text) := by
  rw [matches?, upToNul_of_isWhole (isWhole_containing hv), items?_containing]
  dsimp only
  generalize upToNul text = text
  rw [fits_any_iff]
  constructor
  · rintro ⟨before, after, rfl, h⟩
    have hprefix := (fits_chars_iff v after).mp h
    have hsuffix : folded after <:+ folded (before ++ after) := by
      rw [folded_append]
      exact List.suffix_append _ _
    exact hprefix.isInfix.trans hsuffix.isInfix
  · rintro ⟨before, after, heq⟩
    refine ⟨text.take before.length, text.drop before.length,
      (List.take_append_drop before.length text).symm, (fits_chars_iff _ _).mpr ⟨after, ?_⟩⟩
    have hdrop : folded (text.drop before.length) =
        (before ++ folded v ++ after).drop before.length := by
      rw [heq, folded, reading, lowerAscii, List.map_drop, List.map_drop]
      rfl
    rw [hdrop, List.append_assoc, List.drop_left]

theorem matches?_containing_iff {v text : List Char} (hv : IsWhole v) (htext : IsWhole text) :
    matches? (containing v) text = true ↔ folded v <:+: folded text := by
  rw [matches?_containing_upToNul hv, upToNul_of_isWhole htext]

theorem matches?_containing_append {before v : List Char} (h : IsWhole (before ++ v))
    (after : List Char) : matches? (containing v) (before ++ v ++ after) = true := by
  rw [matches?_containing_upToNul (isWhole_append.mp h).2, upToNul_append h]
  exact folded_infix ⟨before, upToNul after, rfl⟩

end Letterbox.Text.Wildcard
