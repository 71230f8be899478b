import Letterbox.Proofs.Text.Blank

namespace Letterbox.Text

structure IsTrimmed (s : List Char) : Prop where
  first : ∀ c ∈ s.head?, isBlank c = false
  last : ∀ c ∈ s.getLast?, isBlank c = false

theorem isTrimmed_iff {s : List Char} : IsTrimmed s ↔
    s.head?.all (!isBlank ·) = true ∧ s.getLast?.all (!isBlank ·) = true := by
  simp only [Option.all_eq_true, Bool.not_eq_true']
  exact ⟨fun h => ⟨h.first, h.last⟩, fun h => ⟨h.1, h.2⟩⟩

instance (s : List Char) : Decidable (IsTrimmed s) :=
  decidable_of_iff _ isTrimmed_iff.symm

theorem isTrimmed_nil : IsTrimmed [] :=
  ⟨by simp, by simp⟩

theorem IsWord.isTrimmed {w : List Char} (hw : IsWord w) : IsTrimmed w where
  first c hc := hw.2 c (List.mem_of_mem_head? hc)
  last c hc := hw.2 c (List.mem_of_getLast? hc)

section TrimBoth

variable {p : Char → Bool} {s : List Char}

theorem dropWhile_eq_self (h : ∀ c ∈ s.head?, p c = false) : s.dropWhile p = s := by
  cases s with
  | nil => rfl
  | cons c s =>
    have hc := h c rfl
    exact List.dropWhile_cons_of_neg (by simp [hc])

theorem rdropWhile_eq_self (h : ∀ c ∈ s.getLast?, p c = false) : s.rdropWhile p = s := by
  refine List.rdropWhile_eq_self_iff.mpr ?_
  intro hne
  simp [h _ (List.getLast?_eq_some_getLast hne)]

theorem trimBoth_eq_self (hfirst : ∀ c ∈ s.head?, p c = false)
    (hlast : ∀ c ∈ s.getLast?, p c = false) : trimBoth p s = s := by
  have hright : trimBoth p s = (s.dropWhile p).rdropWhile p := rfl
  rw [hright, dropWhile_eq_self hfirst, rdropWhile_eq_self hlast]

theorem trimBoth_sublist (p : Char → Bool) (s : List Char) : (trimBoth p s).Sublist s := by
  have hright : trimBoth p s <+: s.dropWhile p := List.rdropWhile_prefix p (s.dropWhile p)
  exact hright.sublist.trans (List.dropWhile_sublist p)

theorem not_of_mem_head?_trimBoth {c : Char} (hc : c ∈ (trimBoth p s).head?) : p c = false := by
  have hprefix : trimBoth p s <+: s.dropWhile p := List.rdropWhile_prefix p (s.dropWhile p)
  -- what is cut off the right end leaves the first character where it is
  have hfirst : c ∈ (s.dropWhile p).head? := by
    obtain ⟨rest, hrest⟩ := hprefix
    rw [← hrest, List.head?_append, hc]
    rfl
  have hnot := List.head?_dropWhile_not p s
  rw [hfirst] at hnot
  exact hnot

theorem not_of_mem_getLast?_trimBoth {c : Char} (hc : c ∈ (trimBoth p s).getLast?) :
    p c = false := by
  obtain ⟨hne, rfl⟩ := List.mem_getLast?_eq_getLast hc
  exact Bool.eq_false_iff.mpr (List.rdropWhile_last_not p (s.dropWhile p) hne)

end TrimBoth

theorem trimLeft_eq_self {s : List Char} (h : ∀ c ∈ s.head?, isBlank c = false) :
    trimLeft s = s :=
  dropWhile_eq_self h

theorem trim_eq_trimBoth (s : List Char) : trim s = trimBoth isBlank s :=
  rfl

theorem isTrimmed_trim (s : List Char) : IsTrimmed (trim s) where
  first _ hc := not_of_mem_head?_trimBoth (trim_eq_trimBoth s ▸ hc)
  last _ hc := not_of_mem_getLast?_trimBoth (trim_eq_trimBoth s ▸ hc)

theorem IsTrimmed.trim_eq {s : List Char} (h : IsTrimmed s) : trim s = s :=
  trimBoth_eq_self h.first h.last

theorem isTrimmed_of_trimBoth_trim {p : Char → Bool} {s : List Char}
    (h : trimBoth p (trim s) = s) : IsTrimmed s := by
  have hinner : s.Sublist (trim s) := by
    have hsub := trimBoth_sublist p (trim s)
    rwa [h] at hsub
  have houter : (trim s).Sublist s := trimBoth_sublist isBlank s
  exact hinner.antisymm houter ▸ isTrimmed_trim s

theorem trim_cons_of_blank {c : Char} (hc : isBlank c = true) (s : List Char) :
    trim (c :: s) = trim s := by
  rw [trim, trimLeft, List.dropWhile_cons_of_pos hc]
  rfl

theorem trim_blank_append {t : List Char} (ht : allBlank t = true) (s : List Char) :
    trim (t ++ s) = trim s := by
  have hleft : trimLeft (t ++ s) = trimLeft s :=
    List.dropWhile_append_of_pos (List.all_eq_true.mp ht)
  rw [trim, hleft, trim]

theorem trimRight_append_blank {t : List Char} (ht : allBlank t = true) (s : List Char) :
    trimRight (s ++ t) = trimRight s := by
  have hback : ∀ c ∈ t.reverse, isBlank c = true := fun c hc =>
    List.all_eq_true.mp ht c (List.mem_reverse.mp hc)
  rw [trimRight, List.reverse_append, List.dropWhile_append_of_pos hback, trimRight]

theorem trim_append_blank {t : List Char} (ht : allBlank t = true) (s : List Char) :
    trim (s ++ t) = trim s := by
  rw [trim, trimLeft, List.dropWhile_append]
  split
  · rename_i hs
    rw [← trimLeft, List.isEmpty_iff] at hs
    have ht' : t.dropWhile isBlank = [] := List.dropWhile_eq_nil_iff.mpr (List.all_eq_true.mp ht)
    rw [trim, hs, ht']
  · exact trimRight_append_blank ht (trimLeft s)

theorem IsTrimmed.append {s t : List Char} (hs : IsTrimmed s) (ht : IsTrimmed t) (hs' : s ≠ [])
    (ht' : t ≠ []) (between : List Char) : IsTrimmed (s ++ between ++ t) where
  first c hc := hs.first c (by
    rwa [List.append_assoc, List.head?_append_of_ne_nil _ hs'] at hc)
  last c hc := ht.last c (by rwa [List.getLast?_append_of_ne_nil _ ht'] at hc)

theorem joinWith_ne_nil {sep w : List Char} (hw : w ≠ []) (ws : List (List Char)) :
    joinWith sep (w :: ws) ≠ [] := by
  cases ws <;> simp [joinWith, hw]

theorem isTrimmed_joinWith {sep : List Char} {ws : List (List Char)}
    (h : ∀ w ∈ ws, w ≠ [] ∧ IsTrimmed w) : IsTrimmed (joinWith sep ws) := by
  induction ws with
  | nil => exact isTrimmed_nil
  | cons w ws ih =>
    obtain ⟨hne, hw⟩ := h w (by simp)
    cases ws with
    | nil => exact hw
    | cons v ws =>
      have hrest := ih fun u hu => h u (by simp [hu])
      exact hw.append hrest hne (joinWith_ne_nil (h v (by simp)).1 ws) sep

theorem joinWith_cons (sep w : List Char) (ws : List (List Char)) :
    joinWith sep (w :: ws) = w ++ ws.flatMap fun v => sep ++ v := by
  induction ws generalizing w with
  | nil => simp [joinWith]
  | cons v ws ih => rw [joinWith, ih, List.flatMap_cons, List.append_assoc, List.append_assoc]

end Letterbox.Text
