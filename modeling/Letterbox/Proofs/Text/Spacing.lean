import Letterbox.Proofs.Text.AsciiCase
import Letterbox.Proofs.Text.Blank

namespace Letterbox.Text

open CaseTable

def blanks (s : List Char) : List Char :=
  s.filter isBlank

theorem blanks_cons_of_blank {c : Char} (hc : isBlank c = true) (s : List Char) :
    blanks (c :: s) = c :: blanks s :=
  List.filter_cons_of_pos hc

theorem blanks_cons_of_not_blank {c : Char} (hc : isBlank c = false) (s : List Char) :
    blanks (c :: s) = blanks s :=
  List.filter_cons_of_neg (by simp [hc])

def blankPoints : List Nat :=
  [9, 10, 11, 12, 13, 0x20, 0x85, 0xA0, 0x1680, 0x2000, 0x2001, 0x2002, 0x2003, 0x2004, 0x2005,
    0x2006, 0x2007, 0x2008, 0x2009, 0x200A, 0x2028, 0x2029, 0x202F, 0x205F, 0x3000]

theorem isBlank_iff {c : Char} : isBlank c = true ↔ c.toNat ∈ blankPoints := by
  simp only [isBlank, Bool.or_eq_true, Bool.and_eq_true, decide_eq_true_eq, beq_iff_eq, blankPoints,
    List.mem_cons, List.not_mem_nil, or_false]
  omega

def Run.avoidsBlanks (r : Run) : Bool :=
  blankPoints.all fun n =>
    !r.has n && (decide (n < r.first + r.shift) || decide (r.last + r.shift < n))

theorem avoidsBlanks_of_mem_lowerRuns : ∀ r ∈ lowerRuns, Run.avoidsBlanks r = true := by
  decide +kernel

theorem blanks_toLower (c : Char) : blanks [c.toLower] = blanks [c] :=
  toLower_eq_of_ascii (f := fun c => blanks [c]) (by decide) c

theorem not_isBlank_run {c : Char} {r : Run} (hr : r ∈ lowerRuns) (hc : r.has c.toNat = true) :
    isBlank c = false ∧ isBlank (Char.ofNat (Int.toNat (c.toNat + r.shift))) = false := by
  have havoids := avoidsBlanks_of_mem_lowerRuns r hr
  simp only [Run.avoidsBlanks, List.all_eq_true, Bool.and_eq_true, Bool.or_eq_true,
    Bool.not_eq_true', decide_eq_true_eq] at havoids
  constructor
  · rw [← Bool.not_eq_true, isBlank_iff]
    intro hmem
    have hnot := (havoids _ hmem).1
    rw [hc] at hnot
    cases hnot
  · rw [← Bool.not_eq_true, isBlank_iff]
    intro hmem
    have hnot := (havoids _ hmem).2
    obtain ⟨-, hlowered⟩ := toNat_lowered hr hc
    simp only [Run.has, Bool.and_eq_true, decide_eq_true_eq] at hc
    omega

theorem blanks_lowerChar (c : Char) : blanks (lowerChar c) = blanks [c] := by
  unfold lowerChar
  split
  · exact blanks_toLower c
  · split
    · rename_i hdotted
      have hc : isBlank c = false := by
        rw [← Bool.not_eq_true, isBlank_iff, eq_of_beq hdotted]
        decide
      rw [blanks_cons_of_not_blank hc]
      decide
    · split
      · rename_i r hfind
        have hhas := List.find?_some hfind
        obtain ⟨hc, hlower⟩ := not_isBlank_run (List.mem_of_find?_eq_some hfind) hhas
        rw [blanks_cons_of_not_blank hc, blanks_cons_of_not_blank hlower]
      · rfl

theorem blanks_lowerAt (before after : List Char) (c : Char) :
    blanks (lowerAt before after c) = blanks [c] := by
  unfold lowerAt
  split
  · rename_i hsigma
    rw [eq_of_beq hsigma]
    split <;> decide
  · exact blanks_lowerChar c

theorem blanks_lowerAfter (before s : List Char) : blanks (lowerAfter before s) = blanks s := by
  induction s generalizing before with
  | nil => rfl
  | cons c s ih =>
    have hsplit : blanks (c :: s) = blanks [c] ++ blanks s := List.filter_append [c] s
    rw [lowerAfter_cons, hsplit, ← blanks_lowerAt before s c, ← ih (c :: before)]
    exact List.filter_append _ _

theorem blanks_lower (s : List Char) : blanks (lower s) = blanks s :=
  blanks_lowerAfter [] s

theorem joinWith_glue (sep : List Char) (c : Char) (ws : List (List Char)) :
    joinWith sep (glue c ws) = c :: joinWith sep ws := by
  cases ws with
  | nil => rfl
  | cons w ws => cases ws <;> rfl

theorem collapse_cons_of_blank {c : Char} (hc : isBlank c = true) (s : List Char) :
    collapse (c :: s) = collapse s := by
  rw [collapse, words, if_pos hc, ← collapse]

theorem collapse_cons_within {c d : Char} (hc : isBlank c = false) (hd : isBlank d = false)
    (s : List Char) : collapse (c :: d :: s) = c :: collapse (d :: s) := by
  simp [collapse, words, hc, beginsWord, hd, joinWith_glue]

theorem collapse_cons_before {c d : Char} (hc : isBlank c = false) (hd : isBlank d = true)
    (s : List Char) :
    collapse (c :: d :: s) = if words s = [] then [c] else c :: ' ' :: collapse s := by
  have hwords : words (c :: d :: s) = [c] :: words s := by simp [words, hc, beginsWord, hd]
  rw [collapse, hwords]
  split
  · rename_i hnone
    rw [hnone]
    rfl
  · rename_i hsome
    obtain ⟨w, ws, heq⟩ := List.exists_cons_of_ne_nil hsome
    rw [collapse, heq]
    rfl

theorem collapse_singleton {c : Char} (hc : isBlank c = false) : collapse [c] = [c] := by
  simp [collapse, words, hc, beginsWord, joinWith]

theorem length_blanks_collapse_le (s : List Char) :
    (blanks (collapse s)).length ≤ (blanks s).length := by
  induction s using List.twoStepInduction with
  | nil => simp [collapse, words, joinWith]
  | singleton c =>
    cases hc : isBlank c with
    | true =>
      rw [collapse_cons_of_blank hc]
      exact Nat.zero_le _
    | false => rw [collapse_singleton hc]
  | cons_cons c d s ih ihd =>
    cases hc : isBlank c with
    | true =>
      rw [collapse_cons_of_blank hc, blanks_cons_of_blank hc, List.length_cons]
      exact Nat.le_succ_of_le (ihd d)
    | false =>
      cases hd : isBlank d with
      | true =>
        rw [collapse_cons_before hc hd, blanks_cons_of_not_blank hc, blanks_cons_of_blank hd]
        split
        · simp [blanks, hc]
        · rw [blanks_cons_of_not_blank hc, blanks_cons_of_blank rfl]
          simpa using ih
      | false =>
        rw [collapse_cons_within hc hd, blanks_cons_of_not_blank hc, blanks_cons_of_not_blank hc]
        exact ihd d

theorem collapse_eq_self_of_blanks {s : List Char} (h : blanks (collapse s) = blanks s) :
    collapse s = s := by
  -- a blank that is dropped leaves fewer of them
  have hkept {c : Char} {s : List Char} (hc : isBlank c = true) :
      blanks (collapse (c :: s)) ≠ blanks (c :: s) := by
    intro heq
    have hle := length_blanks_collapse_le s
    rw [collapse_cons_of_blank hc, blanks_cons_of_blank hc] at heq
    rw [heq, List.length_cons] at hle
    omega
  induction s using List.twoStepInduction with
  | nil => rfl
  | singleton c =>
    cases hc : isBlank c with
    | true => exact absurd h (hkept hc)
    | false => exact collapse_singleton hc
  | cons_cons c d s ih ihd =>
    cases hc : isBlank c with
    | true => exact absurd h (hkept hc)
    | false =>
      cases hd : isBlank d with
      | true =>
        rw [collapse_cons_before hc hd, blanks_cons_of_not_blank hc, blanks_cons_of_blank hd] at h
        rw [collapse_cons_before hc hd]
        split at h
        · simp [blanks, hc] at h
        · rename_i hsome
          rw [blanks_cons_of_not_blank hc, blanks_cons_of_blank rfl, List.cons.injEq] at h
          obtain ⟨rfl, hrest⟩ := h
          rw [if_neg hsome, ih hrest]
      | false =>
        rw [collapse_cons_within hc hd, blanks_cons_of_not_blank hc,
          blanks_cons_of_not_blank hc] at h
        rw [collapse_cons_within hc hd, ihd d h]

theorem lower_collapse_eq_iff {s : List Char} :
    lower (collapse s) = lower s ↔ collapse s = s := by
  constructor
  · intro h
    have hblanks := congrArg blanks h
    rw [blanks_lower, blanks_lower] at hblanks
    exact collapse_eq_self_of_blanks hblanks
  · intro h
    rw [h]

theorem words_eq_nil_iff {s : List Char} : words s = [] ↔ allBlank s = true := by
  induction s with
  | nil => simp [words, allBlank]
  | cons c s ih =>
    have hcons : allBlank (c :: s) = (isBlank c && allBlank s) := List.all_cons
    rw [hcons]
    cases hc : isBlank c with
    | true => rw [words, if_pos hc, ih, Bool.true_and]
    | false =>
      have hsome : words (c :: s) ≠ [] := by
        rw [words, if_neg (by simp [hc])]
        split
        · cases words s <;> simp [glue]
        · simp
      simp [hsome]

theorem collapse_ne_nil {s : List Char} (h : allBlank s = false) : collapse s ≠ [] := by
  have hsome : words s ≠ [] := by
    rw [ne_eq, words_eq_nil_iff, h]
    exact Bool.false_ne_true
  intro hnil
  have hwords := words_collapse s
  rw [hnil] at hwords
  exact hsome hwords.symm

end Letterbox.Text
