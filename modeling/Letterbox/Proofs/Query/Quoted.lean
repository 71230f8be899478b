import Letterbox.Proofs.Query.Prefix

namespace Letterbox.Query

open Text

def fieldQuery (f : Field) (value : String) : String :=
  String.ofList (f.name.toList ++ ':' :: '"' :: value.toList ++ ['"'])

def phraseQuery (p : String) : String :=
  String.ofList ('"' :: p.toList ++ ['"'])

theorem tokensFrom_append_plain (current : List Char) {w : List Char}
    (hw : ∀ c ∈ w, (c == '"') = false ∧ isBlank c = false) (s : List Char) :
    tokensFrom false current (w ++ s) = tokensFrom false (w.reverse ++ current) s := by
  induction w generalizing current with
  | nil => rfl
  | cons c w ih =>
    obtain ⟨hquote, hblank⟩ := hw c (by simp)
    have hrest := ih (c :: current) fun d hd => hw d (by simp [hd])
    rw [List.cons_append, tokensFrom, hquote, hblank, List.reverse_cons, List.append_assoc]
    simpa using hrest

theorem tokensFrom_append_quoted (current : List Char) {p : List Char} (hp : '"' ∉ p)
    (s : List Char) :
    tokensFrom true current (p ++ '"' :: s) = tokensFrom false (p.reverse ++ current) s := by
  induction p generalizing current with
  | nil => simp [tokensFrom]
  | cons c p ih =>
    rw [List.mem_cons, not_or] at hp
    have hquote : (c == '"') = false := beq_eq_false_iff_ne.mpr (Ne.symm hp.1)
    rw [List.cons_append, tokensFrom, hquote, List.reverse_cons, List.append_assoc]
    simpa using ih (c :: current) hp.2

theorem tokens_quoted {w p : List Char}
    (hw : ∀ c ∈ w, (c == '"') = false ∧ isBlank c = false) (hp : '"' ∉ p) (hne : w ++ p ≠ []) :
    tokens (w ++ '"' :: p ++ ['"']) = [w ++ p] := by
  have hopened : tokensFrom false w.reverse ('"' :: (p ++ ['"'])) =
      tokensFrom true w.reverse (p ++ ['"']) := by simp [tokensFrom]
  rw [tokens, List.append_assoc, List.cons_append, tokensFrom_append_plain [] hw, List.append_nil,
    hopened, tokensFrom_append_quoted _ hp, tokensFrom, ← List.reverse_append,
    List.reverse_reverse, List.isEmpty_reverse, if_neg (by simpa using hne)]

theorem parse_fieldQuery (f : Field) {value : String} (hvalue : value ≠ "")
    (hquote : '"' ∉ value.toList) : parse (fieldQuery f value) = [⟨.field f value, false⟩] := by
  have hname : ∀ c ∈ f.name.toList ++ [':'], (c == '"') = false ∧ isBlank c = false := by
    cases f <;> simp [Field.name, isBlank]
  have hne : value.toList ≠ [] := by simpa using hvalue
  have htokens : tokens (fieldQuery f value).toList = [f.name.toList ++ ':' :: value.toList] := by
    have h := tokens_quoted hname hquote (by simp)
    simpa [fieldQuery] using h
  have hunmarked : ¬ IsNegated (f.name.toList ++ ':' :: value.toList) := by
    rw [← Term.negated_ofToken_iff]
    cases f <;> simp [Field.name, Term.ofToken, isNegation]
  rw [parse, htokens, List.map_singleton, Term.ofToken_of_not_isNegated hunmarked,
    (Names.field f hne).ofToken, String.ofList_toList]

theorem parse_phraseQuery {p : String} (hne : p ≠ "") (hquote : '"' ∉ p.toList) :
    parse (phraseQuery p) = [Term.ofToken p.toList] := by
  have hchars : p.toList ≠ [] := by simpa using hne
  have htokens : tokens (phraseQuery p).toList = [p.toList] := by
    have h := tokens_quoted (w := []) (by simp) hquote (by simpa using hchars)
    simpa [phraseQuery] using h
  rw [parse, htokens, List.map_singleton]

end Letterbox.Query
