import Letterbox.Text.Lines
import Mathlib.Data.List.Basic

namespace Letterbox.Text

section Pieces

variable {α : Type} {p : α → Bool}

theorem splitAt_ne_nil (p : α → Bool) (l : List α) : splitAt p l ≠ [] := by
  cases l with
  | nil => simp [splitAt]
  | cons a l =>
    rw [splitAt]
    split
    · simp
    · cases splitAt p l <;> simp [consHead]

theorem splitAt_append {b : α} (hb : p b = true) (l rest : List α) :
    splitAt p (l ++ b :: rest) = splitAt p l ++ splitAt p rest := by
  induction l with
  | nil => simp [splitAt, hb]
  | cons a l ih =>
    rw [List.cons_append, splitAt, splitAt, ih]
    split
    · rfl
    · obtain ⟨w, ws, hws⟩ := List.exists_cons_of_ne_nil (splitAt_ne_nil p l)
      rw [hws]
      rfl

theorem splitAt_eq_singleton {l : List α} (h : ∀ a ∈ l, p a = false) : splitAt p l = [l] := by
  induction l with
  | nil => rfl
  | cons a l ih =>
    have hrest := ih fun b hb => h b (by simp [hb])
    rw [splitAt, hrest, if_neg (by simp [h a])]
    rfl

theorem mem_of_mem_splitAt {l w : List α} (hw : w ∈ splitAt p l) {a : α} (ha : a ∈ w) :
    a ∈ l ∧ p a = false := by
  induction l generalizing w with
  | nil =>
    rw [splitAt, List.mem_singleton] at hw
    exact absurd (hw ▸ ha) List.not_mem_nil
  | cons b l ih =>
    rw [splitAt] at hw
    split at hw
    · rcases List.mem_cons.mp hw with rfl | hw
      · exact absurd ha List.not_mem_nil
      · exact ⟨List.mem_cons_of_mem b (ih hw ha).1, (ih hw ha).2⟩
    · rename_i hb
      obtain ⟨v, vs, hvs⟩ := List.exists_cons_of_ne_nil (splitAt_ne_nil p l)
      rw [hvs, consHead, List.mem_cons] at hw
      have hrest (u : List α) (hu : u ∈ splitAt p l) (hau : a ∈ u) : a ∈ b :: l ∧ p a = false :=
        ⟨List.mem_cons_of_mem b (ih hu hau).1, (ih hu hau).2⟩
      rcases hw with rfl | hw
      · rcases List.mem_cons.mp ha with rfl | ha
        · exact ⟨List.mem_cons_self, by simpa using hb⟩
        · exact hrest v (by simp [hvs]) ha
      · exact hrest w (by simp [hvs, hw]) ha

theorem splitAt_prepend {l t w : List α} {ws : List (List α)} (ht : ∀ a ∈ t, p a = false)
    (h : splitAt p l = w :: ws) : splitAt p (t ++ l) = (t ++ w) :: ws := by
  induction t with
  | nil => exact h
  | cons a t ih =>
    have hrest := ih fun b hb => ht b (List.mem_cons_of_mem a hb)
    rw [List.cons_append, splitAt, if_neg (by simp [ht a]), hrest]
    rfl

theorem splitAt_extend {l t w : List α} {ws : List (List α)} (ht : ∀ a ∈ t, p a = false)
    (h : splitAt p l = ws ++ [w]) : splitAt p (l ++ t) = ws ++ [w ++ t] := by
  induction l generalizing ws w with
  | nil =>
    obtain ⟨rfl, rfl⟩ : ws = [] ∧ w = [] := by
      rw [splitAt] at h
      simpa [List.singleton_eq_append_iff] using h
    exact splitAt_eq_singleton ht
  | cons a l ih =>
    obtain ⟨vs, v, hvs⟩ := (List.eq_nil_or_concat' (splitAt p l)).resolve_left (splitAt_ne_nil p l)
    rw [splitAt, hvs] at h
    rw [List.cons_append, splitAt, ih hvs]
    by_cases ha : p a = true
    · rw [if_pos ha, ← List.cons_append] at h
      obtain ⟨rfl, hw⟩ := List.append_inj' h rfl
      cases hw
      rw [if_pos ha]
      rfl
    · rw [if_neg ha] at h
      rw [if_neg ha]
      cases vs with
      | nil =>
        have hlast : [] ++ [a :: v] = ws ++ [w] := h
        obtain ⟨rfl, hw⟩ := List.append_inj' hlast rfl
        cases hw
        rfl
      | cons u us =>
        have hlast : (a :: u) :: us ++ [v] = ws ++ [w] := h
        obtain ⟨rfl, hw⟩ := List.append_inj' hlast rfl
        cases hw
        rfl

theorem cut_append {l : List α} (hl : ∀ a ∈ l, p a = false) {b : α} (hb : p b = true)
    (rest : List α) : cut p (l ++ b :: rest) = some (l, rest) := by
  induction l with
  | nil => simp [cut, hb]
  | cons a l ih =>
    have hrest := ih fun a' ha' => hl a' (by simp [ha'])
    simp [cut, hl a (by simp), hrest]

theorem eq_append_of_cut {l w rest : List α} (h : cut p l = some (w, rest)) :
    ∃ b, l = w ++ b :: rest ∧ p b = true ∧ ∀ a ∈ w, p a = false := by
  induction l generalizing w with
  | nil => cases h
  | cons a l ih =>
    rw [cut] at h
    split at h
    · rename_i ha
      cases h
      exact ⟨a, rfl, ha, by simp⟩
    · rename_i ha
      obtain ⟨⟨w', rest'⟩, hcut, heq⟩ := Option.map_eq_some_iff.mp h
      cases heq
      obtain ⟨b, rfl, hb, hw⟩ := ih hcut
      refine ⟨b, rfl, hb, ?_⟩
      rw [List.forall_mem_cons]
      exact ⟨by simpa using ha, hw⟩

end Pieces

theorem endLines_append (pieces : List (List Char)) {rest : List (List Char)} (h : rest ≠ []) :
    endLines (pieces ++ rest) = pieces.map dropReturn ++ endLines rest := by
  induction pieces with
  | nil => rfl
  | cons line pieces ih =>
    obtain ⟨next, others, hnext⟩ := List.exists_cons_of_ne_nil (List.append_ne_nil_of_right_ne_nil
      pieces h)
    rw [List.cons_append, hnext, endLines, ← hnext, ih]
    · rfl
    · simp

theorem splitAt_eq_singleton_of_not_mem {line : List Char} (h : '\n' ∉ line) :
    splitAt (· == '\n') line = [line] := by
  refine splitAt_eq_singleton ?_
  intro c hc
  rw [beq_eq_false_iff_ne]
  rintro rfl
  exact h hc

theorem lines_append (s rest : List Char) :
    lines (s ++ '\n' :: rest) = (splitAt (· == '\n') s).map dropReturn ++ lines rest := by
  rw [lines, splitAt_append rfl, endLines_append _ (splitAt_ne_nil _ rest), ← lines]

theorem lines_append_line {line : List Char} (h : '\n' ∉ line) (rest : List Char) :
    lines (line ++ '\n' :: rest) = dropReturn line :: lines rest := by
  rw [lines_append, splitAt_eq_singleton_of_not_mem h]
  rfl

end Letterbox.Text
