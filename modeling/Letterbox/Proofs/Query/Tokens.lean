import Letterbox.Proofs.Text.Blank
import Letterbox.Query.Reader
import Mathlib.Algebra.Group.Nat.Even

namespace Letterbox.Query

open Text

def EndsOutside (s : List Char) : Prop :=
  Even (s.count '"') ∨ trimRight s = s

theorem isQuote_of_isBlank {c : Char} (hc : isBlank c = true) : (c == '"') = false := by
  rw [beq_eq_false_iff_ne]
  rintro rfl
  cases hc

theorem count_quotes_of_blanks {blanks : List Char} (hblanks : ∀ c ∈ blanks, isBlank c = true) :
    blanks.count '"' = 0 := by
  refine List.count_eq_zero.mpr ?_
  intro hmem
  cases hblanks _ hmem

theorem tokensFrom_blank_cons {c : Char} (hc : isBlank c = true) (s : List Char) :
    tokensFrom false [] (c :: s) = tokensFrom false [] s := by
  simp [tokensFrom, isQuote_of_isBlank hc, hc]

theorem tokensFrom_append {quoted : Bool} (current : List Char) {s : List Char}
    (hquotes : Even (s.count '"') ↔ quoted = false) {b : Char} (hb : isBlank b = true)
    (rest : List Char) :
    tokensFrom quoted current (s ++ b :: rest) = tokensFrom quoted current s ++ tokens rest := by
  induction s generalizing quoted current with
  | nil =>
    have hquoted : quoted = false := hquotes.mp (by simp)
    subst hquoted
    simp only [List.nil_append, tokensFrom, isQuote_of_isBlank hb, hb, Bool.false_eq_true, if_false,
      Bool.not_false, Bool.and_self, if_true, tokens]
    split <;> rfl
  | cons c s ih =>
    rw [List.count_cons] at hquotes
    cases hc : c == '"' with
    | true =>
      have hrest : Even (s.count '"') ↔ (!quoted) = false := by
        rw [hc, if_pos rfl, Nat.even_add_one] at hquotes
        rw [← not_iff_not, hquotes]
        cases quoted <;> simp
      simp only [List.cons_append, tokensFrom, hc, if_true, ih current hrest]
    | false =>
      have hrest : Even (s.count '"') ↔ quoted = false := by simpa [hc] using hquotes
      cases hblank : isBlank c && !quoted with
      | true =>
        have hquoted : quoted = false := by
          rw [Bool.and_eq_true, Bool.not_eq_true'] at hblank
          exact hblank.2
        subst hquoted
        simp only [List.cons_append, tokensFrom, hc, hblank, Bool.false_eq_true, if_false, if_true,
          ih [] hrest]
        split <;> rfl
      | false =>
        simp only [List.cons_append, tokensFrom, hc, hblank, Bool.false_eq_true, if_false,
          ih (c :: current) hrest]

theorem tokens_append {s : List Char} (heven : Even (s.count '"')) {b : Char}
    (hb : isBlank b = true) (rest : List Char) :
    tokens (s ++ b :: rest) = tokens s ++ tokens rest :=
  tokensFrom_append [] (by simpa using heven) hb rest

theorem tokens_blanks {blanks : List Char} (hblanks : ∀ c ∈ blanks, isBlank c = true) :
    tokens blanks = [] := by
  induction blanks with
  | nil => rfl
  | cons c blanks ih =>
    rw [tokens, tokensFrom_blank_cons (hblanks c (by simp))]
    exact ih fun d hd => hblanks d (by simp [hd])

theorem tokens_append_blanks {s blanks : List Char} (heven : Even (s.count '"'))
    (hblanks : ∀ c ∈ blanks, isBlank c = true) : tokens (s ++ blanks) = tokens s := by
  cases blanks with
  | nil => rw [List.append_nil]
  | cons c blanks =>
    obtain ⟨hc, hblanks'⟩ := List.forall_mem_cons.mp hblanks
    rw [tokens_append heven hc, tokens_blanks hblanks', List.append_nil]

theorem tokens_trimLeft (s : List Char) : tokens (trimLeft s) = tokens s := by
  induction s with
  | nil => rfl
  | cons c s ih =>
    cases hc : isBlank c with
    | false => rw [trimLeft, List.dropWhile_cons_of_neg (by simp [hc])]
    | true =>
      rw [trimLeft, List.dropWhile_cons_of_pos hc, tokens, tokens, tokensFrom_blank_cons hc]
      exact ih

theorem endsOutside_trimLeft {s : List Char} (h : EndsOutside s) : EndsOutside (trimLeft s) := by
  rcases h with heven | hself
  · have hcount : s.count '"' = (trimLeft s).count '"' := by
      have hleft : (s.takeWhile isBlank).count '"' = 0 :=
        count_quotes_of_blanks fun c hc => List.mem_takeWhile_imp hc
      conv_lhs => rw [← List.takeWhile_append_dropWhile (p := isBlank) (l := s)]
      rw [List.count_append, hleft, Nat.zero_add]
      rfl
    exact Or.inl (hcount ▸ heven)
  · refine Or.inr (List.rdropWhile_eq_self_iff.mpr ?_)
    intro hne
    have hsuffix : trimLeft s <:+ s := List.dropWhile_suffix isBlank
    rw [hsuffix.getLast hne]
    exact List.rdropWhile_eq_self_iff.mp hself _

theorem tokens_trim {s : List Char} (h : EndsOutside s) : tokens (trim s) = tokens s := by
  rw [trim, ← tokens_trimLeft s]
  rcases endsOutside_trimLeft h with heven | hself
  · have hblanks : ∀ c ∈ (trimLeft s).rtakeWhile isBlank, isBlank c = true :=
      fun c hc => List.mem_rtakeWhile_imp hc
    have hsplit := trimRight_append (trimLeft s)
    have hquotes : Even ((trimRight (trimLeft s)).count '"') := by
      rw [← hsplit, List.count_append, count_quotes_of_blanks hblanks] at heven
      exact heven
    conv_rhs => rw [← hsplit]
    exact (tokens_append_blanks hquotes hblanks).symm
  · rw [hself]

theorem parse_trim {query : String} (h : EndsOutside query.toList) :
    parse (String.ofList (trim query.toList)) = parse query := by
  rw [parse, String.toList_ofList, tokens_trim h, ← parse]

def joined (first : String) (b : Char) (second : String) : String :=
  first ++ String.singleton b ++ second

theorem parse_joined {first : String} (heven : Even (first.toList.count '"')) {b : Char}
    (hb : isBlank b = true) (second : String) :
    parse (joined first b second) = parse first ++ parse second := by
  have hchars : (joined first b second).toList = first.toList ++ b :: second.toList := by
    simp [joined]
  rw [parse, hchars, tokens_append heven hb, List.map_append, ← parse, ← parse]

end Letterbox.Query
