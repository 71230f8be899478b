import Letterbox.Text.Blank
import Mathlib.Data.List.DropRight

namespace Letterbox.Text

def IsWord (w : List Char) : Prop :=
  w ≠ [] ∧ ∀ c ∈ w, isBlank c = false

theorem isWord_cons {c : Char} {w : List Char} (hc : isBlank c = false)
    (hw : ∀ d ∈ w, isBlank d = false) : IsWord (c :: w) := by
  refine ⟨by simp, ?_⟩
  intro d hd
  rcases List.mem_cons.mp hd with rfl | hd
  · exact hc
  · exact hw d hd

theorem isWord_of_mem_words {s w : List Char} (hw : w ∈ words s) : IsWord w := by
  induction s generalizing w with
  | nil => simp [words] at hw
  | cons c s ih =>
    rw [words] at hw
    split at hw
    · exact ih hw
    · rename_i hc
      have hblank : isBlank c = false := by simpa using hc
      split at hw
      · cases hws : words s with
        | nil =>
          rw [hws, glue, List.mem_singleton] at hw
          exact hw ▸ isWord_cons hblank (by simp)
        | cons v vs =>
          rw [hws, glue, List.mem_cons] at hw
          rcases hw with rfl | hw
          · exact isWord_cons hblank (ih (w := v) (by simp [hws])).2
          · exact ih (by simp [hws, hw])
      · rcases List.mem_cons.mp hw with rfl | hw
        · exact isWord_cons hblank (by simp)
        · exact ih hw

theorem words_append {w : List Char} (hw : IsWord w) (s : List Char)
    (hs : beginsWord s = false) : words (w ++ s) = w :: words s := by
  obtain ⟨hne, hblank⟩ := hw
  induction w with
  | nil => exact absurd rfl hne
  | cons c w ih =>
    have hc := hblank c (by simp)
    cases w with
    | nil => simp [words, hc, hs]
    | cons d w =>
      have hd := hblank d (by simp)
      have hrest := ih (by simp) (fun x hx => hblank x (by simp [hx]))
      rw [List.cons_append, words, if_neg (by simp [hc]), hrest]
      simp [beginsWord, hd, glue]

theorem words_append_space {w : List Char} (hw : IsWord w) (s : List Char) :
    words (w ++ ' ' :: s) = w :: words s := by
  have hspace : isBlank ' ' = true := rfl
  rw [words_append hw (' ' :: s) rfl, words, if_pos hspace]

theorem words_of_isWord {w : List Char} (hw : IsWord w) : words w = [w] := by
  simpa [words] using words_append hw [] rfl

theorem words_joinWith (ws : List (List Char)) (h : ∀ w ∈ ws, IsWord w) :
    words (joinWith [' '] ws) = ws := by
  induction ws with
  | nil => rfl
  | cons w ws ih =>
    cases ws with
    | nil => exact words_of_isWord (h w (by simp))
    | cons v ws =>
      have hrest := ih fun u hu => h u (by simp [hu])
      rw [joinWith, List.append_assoc, List.singleton_append, words_append_space (h w (by simp)),
        hrest]

theorem words_collapse (s : List Char) : words (collapse s) = words s :=
  words_joinWith (words s) fun _ hw => isWord_of_mem_words hw

theorem mem_of_mem_words {s w : List Char} (hw : w ∈ words s) {c : Char} (hc : c ∈ w) : c ∈ s := by
  induction s generalizing w with
  | nil => simp [words] at hw
  | cons d s ih =>
    rw [words] at hw
    split at hw
    · exact List.mem_cons_of_mem d (ih hw hc)
    · split at hw
      · cases hws : words s with
        | nil => simp_all [glue]
        | cons v vs =>
          rw [hws, glue, List.mem_cons] at hw
          rcases hw with rfl | hw
          · rcases List.mem_cons.mp hc with rfl | hc
            · exact List.mem_cons_self
            · exact List.mem_cons_of_mem d (ih (by simp [hws]) hc)
          · exact List.mem_cons_of_mem d (ih (by simp [hws, hw]) hc)
      · rcases List.mem_cons.mp hw with rfl | hw
        · simp_all
        · exact List.mem_cons_of_mem d (ih hw hc)

theorem mem_of_mem_joinWith {sep : List Char} {ws : List (List Char)} {c : Char}
    (hc : c ∈ joinWith sep ws) : c ∈ sep ∨ ∃ w ∈ ws, c ∈ w := by
  induction ws with
  | nil => simp [joinWith] at hc
  | cons w ws ih =>
    cases ws with
    | nil => exact Or.inr ⟨w, by simp, hc⟩
    | cons v ws =>
      rw [joinWith, List.mem_append, List.mem_append] at hc
      rcases hc with (hc | hc) | hc
      · exact Or.inr ⟨w, by simp, hc⟩
      · exact Or.inl hc
      · rcases ih hc with hsep | ⟨u, hu, hcu⟩
        · exact Or.inl hsep
        · exact Or.inr ⟨u, List.mem_cons_of_mem w hu, hcu⟩

theorem mem_of_mem_collapse {s : List Char} {c : Char} (hc : c ∈ collapse s) : c = ' ' ∨ c ∈ s := by
  rcases mem_of_mem_joinWith hc with hspace | ⟨w, hw, hcw⟩
  · exact Or.inl (List.mem_singleton.mp hspace)
  · exact Or.inr (mem_of_mem_words hw hcw)

theorem collapse_collapse (s : List Char) : collapse (collapse s) = collapse s := by
  rw [collapse, words_collapse, ← collapse]

theorem trimRight_append (s : List Char) : trimRight s ++ s.rtakeWhile isBlank = s :=
  List.rdropWhile_append_rtakeWhile

theorem isEmpty_trim (s : List Char) : (trim s).isEmpty = allBlank s := by
  rw [Bool.eq_iff_iff, List.isEmpty_iff, allBlank, List.all_eq_true]
  have hright : trim s = [] ↔ ∀ c ∈ trimLeft s, isBlank c = true := List.rdropWhile_eq_nil_iff
  rw [hright]
  constructor
  · intro h c hc
    rw [← List.takeWhile_append_dropWhile (p := isBlank) (l := s), List.mem_append] at hc
    rcases hc with hc | hc
    · exact List.mem_takeWhile_imp hc
    · exact h c hc
  · intro h c hc
    exact h c ((List.dropWhile_suffix isBlank).mem hc)

theorem exists_trim_between (s : List Char) : ∃ before after, allBlank before = true ∧
    allBlank after = true ∧ before ++ (trim s ++ after) = s := by
  refine ⟨s.takeWhile isBlank, (trimLeft s).rtakeWhile isBlank, ?_, ?_, ?_⟩
  · exact List.all_eq_true.mpr fun c hc => List.mem_takeWhile_imp hc
  · exact List.all_eq_true.mpr fun c hc => List.mem_rtakeWhile_imp hc
  · rw [trim, trimRight_append]
    exact List.takeWhile_append_dropWhile

theorem allBlank_trim (s : List Char) : allBlank (trim s) = allBlank s := by
  obtain ⟨before, after, hbefore, hafter, hsplit⟩ := exists_trim_between s
  rw [allBlank] at hbefore hafter
  conv_rhs => rw [← hsplit]
  rw [allBlank, allBlank, List.all_append, List.all_append, hbefore, hafter, Bool.true_and,
    Bool.and_true]

end Letterbox.Text
