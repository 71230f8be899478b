import Letterbox.Envelope.Digest
import Letterbox.Proofs.Html.Text
import Letterbox.Proofs.Text.Spacing

namespace Letterbox

namespace Text

structure IsSpaced (s : List Char) : Prop where
  trimmed : IsTrimmed s
  single : s.IsChain fun c d => isBlank c = false ∨ isBlank d = false

theorem isChain_joinWith {ws : List (List Char)} (h : ∀ w ∈ ws, IsWord w) :
    (joinWith [' '] ws).IsChain fun c d => isBlank c = false ∨ isBlank d = false := by
  have hword {w : List Char} (hw : IsWord w) :
      w.IsChain fun c d => isBlank c = false ∨ isBlank d = false := by
    refine List.Pairwise.isChain (List.pairwise_of_forall_mem_list ?_)
    exact fun c hc _ _ => Or.inl (hw.2 c hc)
  induction ws with
  | nil => exact .nil
  | cons w ws ih =>
    obtain ⟨hw, hws⟩ := List.forall_mem_cons.mp h
    cases ws with
    | nil => exact hword hw
    | cons v ws =>
      have hrest := ih hws
      have hfirst : ∀ c ∈ (joinWith [' '] (v :: ws)).head?, isBlank c = false := by
        obtain ⟨hne, hv⟩ := hws v (by simp)
        intro c hc
        rw [joinWith_cons, List.head?_append_of_ne_nil _ hne] at hc
        exact hv c (List.mem_of_mem_head? hc)
      rw [joinWith, List.append_assoc, List.singleton_append, List.isChain_append,
        List.isChain_cons]
      refine ⟨hword hw, ⟨fun c hc => Or.inr (hfirst c hc), hrest⟩, ?_⟩
      exact fun c hc _ _ => Or.inl (hw.2 c (List.mem_of_getLast? hc))

theorem isSpaced_collapse (s : List Char) : IsSpaced (collapse s) where
  trimmed := isTrimmed_joinWith fun _ hw =>
    ⟨(isWord_of_mem_words hw).1, (isWord_of_mem_words hw).isTrimmed⟩
  single := isChain_joinWith fun _ hw => isWord_of_mem_words hw

theorem collapse_eq_nil_iff {s : List Char} : collapse s = [] ↔ allBlank s = true := by
  cases h : allBlank s with
  | false => simp [collapse_ne_nil h]
  | true => simp [collapse, words_eq_nil_iff.mpr h, joinWith]

theorem trimRight_prefix (s : List Char) : trimRight s <+: s :=
  List.rdropWhile_prefix isBlank s

theorem IsSpaced.cutOff {s p : List Char} (hs : IsSpaced s) (hp : p <+: s) :
    IsSpaced (p ++ ['.', '.', '.']) where
  trimmed := by
    obtain ⟨rest, rfl⟩ := hp
    refine ⟨fun c hc => ?_, fun c hc => ?_⟩
    · cases p with
      | nil => exact Option.mem_some_iff.mp hc ▸ rfl
      | cons d p => exact hs.trimmed.first c hc
    · rw [List.getLast?_append_of_ne_nil _ (by simp)] at hc
      exact Option.mem_some_iff.mp hc ▸ rfl
  single := by
    rw [List.isChain_append]
    have hcut := List.IsChain.prefix hs.single hp
    refine ⟨hcut, by decide, fun _ _ d hd => Or.inr ?_⟩
    exact Option.mem_some_iff.mp hd ▸ rfl

end Text

namespace Envelope

open Text

def HasVisible (e : Envelope) : Prop :=
  allBlank e.text.toList = false ∨ allBlank (Html.toText e.html).toList = false

def HidesText (e : Envelope) : Prop :=
  allBlank e.text.toList = false ∧ allBlank e.html.toList = false ∧
    allBlank (Html.toText e.html).toList = true

theorem toList_snippet (e : Envelope) : e.snippet.toList =
    if e.previewed.length ≤ snippetLength then e.previewed
    else trimRight (e.previewed.take snippetLength) ++ ['.', '.', '.'] := by
  simp only [snippet]
  split <;> exact String.toList_ofList

theorem snippet_cases (e : Envelope) :
    (e.snippet.toList = e.previewed ∧ e.previewed.length ≤ 200) ∨
      (200 < e.previewed.length ∧ ∃ cut, cut <+: e.previewed ∧ cut.length ≤ 200 ∧
        e.snippet.toList = cut ++ ['.', '.', '.']) := by
  rw [toList_snippet]
  split
  · rename_i hshort
    exact Or.inl ⟨rfl, hshort⟩
  · rename_i hlong
    have hprefix := trimRight_prefix (e.previewed.take snippetLength)
    refine Or.inr ⟨Nat.lt_of_not_le hlong, _, hprefix.trans (List.take_prefix _ _), ?_, rfl⟩
    exact hprefix.length_le.trans (List.length_take_le _ _)

theorem snippet_eq_empty_iff (e : Envelope) : e.snippet = "" ↔ e.previewed = [] := by
  rw [← String.toList_eq_nil_iff]
  rcases snippet_cases e with ⟨heq, -⟩ | ⟨hlong, cut, -, -, heq⟩
  · rw [heq]
  · have hsome : e.previewed ≠ [] := List.ne_nil_of_length_pos (by omega)
    simp [heq, hsome]

theorem previewed_eq_nil_iff (e : Envelope) : e.previewed = [] ↔
    if allBlank e.html.toList = true then allBlank e.text.toList = true
    else allBlank (Html.toText e.html).toList = true := by
  rw [previewed, collapse_eq_nil_iff]
  cases allBlank e.html.toList <;> simp

theorem snippet_of_visible (e : Envelope) :
    (e.HasVisible ∧ e.snippet = "" ↔ e.HidesText) ∧ IsSpaced e.snippet.toList ∧
      e.snippet.length ≤ 203 ∧
      (e.snippet.toList = e.previewed ∨ ∃ cut, cut <+: e.previewed ∧ cut.length ≤ 200 ∧
        e.snippet.toList = cut ++ ['.', '.', '.']) := by
  have hspaced : IsSpaced e.previewed := isSpaced_collapse _
  refine ⟨?_, ?_⟩
  · rw [snippet_eq_empty_iff, previewed_eq_nil_iff, HasVisible, HidesText]
    cases hhtml : allBlank e.html.toList with
    | true =>
      have hnone : allBlank (Html.toText e.html).toList = true := by
        rw [Html.toText_blank hhtml]
        rfl
      simp [hnone]
    | false => cases allBlank e.text.toList <;> simp
  · rw [← String.length_toList]
    rcases snippet_cases e with ⟨heq, hlength⟩ | ⟨-, cut, hprefix, hlength, heq⟩
    · rw [heq]
      exact ⟨hspaced, by omega, Or.inl rfl⟩
    · rw [heq]
      exact ⟨hspaced.cutOff hprefix, by simpa using hlength, Or.inr ⟨cut, hprefix, hlength, rfl⟩⟩

theorem snippet_of_visible_lineBreak :
    ({ text := "hello", html := "<br>" } : Envelope).HasVisible ∧
      ({ text := "hello", html := "<br>" } : Envelope).snippet = "" := by
  constructor
  · exact Or.inl (by decide)
  · decide +kernel

end Envelope

end Letterbox
