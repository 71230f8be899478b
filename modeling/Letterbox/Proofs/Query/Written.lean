import Letterbox.Proofs.Query.Quoted
import Letterbox.Proofs.Query.Tokens
import Letterbox.Proofs.Time.Date

namespace Letterbox.Query

open Text

def Condition.IsWritable : Condition → Prop
  | .text v => v ≠ "" ∧ '"' ∉ v.toList ∧ Condition.ofToken v.toList = .text v
  | .field _ v => v ≠ "" ∧ '"' ∉ v.toList
  | .flag _ => True
  | .date _ d => d.isValid = true

structure Term.IsWritable (term : Term) : Prop where
  condition : term.condition.IsWritable
  unmarked : term.negated = false → ∀ v, term.condition = .text v → ¬ IsNegated v.toList

def Term.token (term : Term) : List Char :=
  if term.negated then '-' :: term.condition.write else term.condition.write

theorem Names.of_spelling (name value : String) {f : Flag} (hname : ':' ∉ name.toList)
    (hvalue : value.toList ≠ [])
    (hspelled : (String.ofList (lower name.toList), String.ofList (lower value.toList)) ∈
      f.spellings) :
    Names (name.toList ++ ':' :: value.toList) (.flag f) :=
  .intro hname hvalue (.flag hspelled)

theorem Names.flag (f : Flag) : Names f.name.toList (.flag f) := by
  cases f with
  | read => exact of_spelling "is" "read" (by decide) (by decide) (by decide +kernel)
  | unread => exact of_spelling "is" "unread" (by decide) (by decide) (by decide +kernel)
  | tagged => exact of_spelling "is" "tagged" (by decide) (by decide) (by decide +kernel)
  | attachment =>
    exact of_spelling "has" "attachment" (by decide) (by decide) (by decide +kernel)
  | inlinePart => exact of_spelling "has" "inline" (by decide) (by decide) (by decide +kernel)

theorem Names.date (side : Side) {d : Date} (hd : d.isValid = true) :
    Names (side.name.toList ++ ':' :: d.text) (.date side d) := by
  refine .intro ?_ d.text_ne_nil (.date ?_ (Date.read?_text hd))
  · cases side <;> decide +kernel
  · cases side <;> decide +kernel

theorem Condition.ofToken_write {c : Condition} (hc : c.IsWritable) : ofToken c.write = c := by
  cases c with
  | text v => exact hc.2.2
  | field f v =>
    have hv : v.toList ≠ [] := by simpa using hc.1
    rw [write, (Names.field f hv).ofToken, String.ofList_toList]
  | flag f => exact (Names.flag f).ofToken
  | date side d => exact (Names.date side hc).ofToken

theorem Condition.write_ne_nil {c : Condition} (hc : c.IsWritable) : c.write ≠ [] := by
  cases c with
  | text v => simpa [write] using hc.1
  | field f v => simp [write]
  | flag f => cases f <;> decide
  | date side d => simp [write]

theorem Condition.quote_not_mem_write {c : Condition} (hc : c.IsWritable) : '"' ∉ c.write := by
  cases c with
  | text v => exact hc.2.1
  | field f v =>
    have hname : '"' ∉ f.name.toList := by cases f <;> decide +kernel
    simp [write, hname, hc.2]
  | flag f => cases f <;> decide +kernel
  | date side d =>
    have hname : '"' ∉ side.name.toList := by cases side <;> decide +kernel
    simp [write, hname, d.quote_not_mem_text]

theorem Term.token_ne_nil {term : Term} (h : term.IsWritable) : term.token ≠ [] := by
  unfold token
  split
  · exact List.cons_ne_nil _ _
  · exact Condition.write_ne_nil h.condition

theorem Term.quote_not_mem_token {term : Term} (h : term.IsWritable) : '"' ∉ term.token := by
  have hwrite := Condition.quote_not_mem_write h.condition
  unfold token
  split
  · simpa using hwrite
  · exact hwrite

theorem not_isNegated_of_head {c : Char} {s : List Char} (hc : isNegation c = false) :
    ¬ IsNegated (c :: s) := by
  rintro ⟨hmark, -⟩
  rw [hc] at hmark
  cases hmark

theorem Term.not_isNegated_write {term : Term} (h : term.IsWritable)
    (hnegated : term.negated = false) : ¬ IsNegated term.condition.write := by
  cases hc : term.condition with
  | text v => exact h.unmarked hnegated v hc
  | field f v => cases f <;> exact not_isNegated_of_head rfl
  | flag f => cases f <;> exact not_isNegated_of_head rfl
  | date side d => cases side <;> exact not_isNegated_of_head rfl

theorem Term.ofToken_token {term : Term} (h : term.IsWritable) : ofToken term.token = term := by
  have hcondition := Condition.ofToken_write h.condition
  cases hnegated : term.negated with
  | false =>
    rw [token, hnegated, if_neg Bool.false_ne_true,
      ofToken_of_not_isNegated (not_isNegated_write h hnegated), hcondition, ← hnegated]
  | true =>
    obtain ⟨c, s, hs⟩ := List.exists_cons_of_ne_nil (Condition.write_ne_nil h.condition)
    rw [token, hnegated, if_pos rfl, hs]
    rw [hs] at hcondition
    simp [ofToken, isNegation, hcondition, ← hnegated]

theorem Term.write_eq (term : Term) : term.write = '"' :: term.token ++ ['"'] :=
  rfl

theorem Term.tokens_write {term : Term} (h : term.IsWritable) :
    tokens term.write = [term.token] := by
  have hquoted := tokens_quoted (w := []) (by simp) (quote_not_mem_token h)
    (by simpa using token_ne_nil h)
  simpa only [write_eq, List.nil_append] using hquoted

theorem Term.even_count_write {term : Term} (h : term.IsWritable) :
    Even (term.write.count '"') := by
  have hinner : term.token.count '"' = 0 := List.count_eq_zero.mpr (quote_not_mem_token h)
  rw [write_eq, List.cons_append, List.count_cons_self, List.count_append, hinner]
  decide

theorem tokens_joinWith {terms : List Term} (h : ∀ term ∈ terms, term.IsWritable) :
    tokens (joinWith [' '] (terms.map Term.write)) = terms.map Term.token := by
  induction terms with
  | nil => rfl
  | cons term terms ih =>
    obtain ⟨hterm, hterms⟩ := List.forall_mem_cons.mp h
    cases terms with
    | nil => exact Term.tokens_write hterm
    | cons other terms =>
      have hsplit : joinWith [' '] ((term :: other :: terms).map Term.write) =
          term.write ++ ' ' :: joinWith [' '] ((other :: terms).map Term.write) := by
        simp [joinWith]
      rw [hsplit, tokens_append (Term.even_count_write hterm) rfl, Term.tokens_write hterm,
        ih hterms]
      rfl

theorem parse_write {terms : List Term} (h : ∀ term ∈ terms, term.IsWritable) :
    parse (write terms) = terms := by
  rw [parse, write, String.toList_ofList, tokens_joinWith h, List.map_map]
  refine (List.map_congr_left ?_).trans (List.map_id terms)
  intro term hterm
  exact Term.ofToken_token (h term hterm)

theorem of_mem_tokensFrom {quoted : Bool} {current s w : List Char} (hcurrent : '"' ∉ current)
    (hw : w ∈ tokensFrom quoted current s) : w ≠ [] ∧ '"' ∉ w := by
  -- a token that is complete is the reverse of what has been read of it
  have hdone : ∀ {current : List Char}, '"' ∉ current → ¬ current.isEmpty = true →
      current.reverse ≠ [] ∧ '"' ∉ current.reverse := by
    intro current hcurrent hsome
    simpa using And.intro (by simpa using hsome) hcurrent
  induction s generalizing quoted current with
  | nil =>
    rw [tokensFrom] at hw
    split at hw
    · cases hw
    · rename_i hsome
      exact List.mem_singleton.mp hw ▸ hdone hcurrent hsome
  | cons c s ih =>
    rw [tokensFrom] at hw
    split at hw
    · exact ih hcurrent hw
    · rename_i hquote
      split at hw
      · split at hw
        · exact ih List.not_mem_nil hw
        · rename_i hsome
          rcases List.mem_cons.mp hw with rfl | hw
          · exact hdone hcurrent hsome
          · exact ih List.not_mem_nil hw
      · refine ih ?_ hw
        rw [List.mem_cons, not_or]
        exact ⟨fun heq => hquote (by simp [← heq]), hcurrent⟩

theorem Condition.isWritable_of_names {token : List Char} {c : Condition} (hquote : '"' ∉ token)
    (h : Names token c) : c.IsWritable := by
  obtain ⟨hname, hvalue, hmeans⟩ := h
  rw [List.mem_append, not_or, List.mem_cons, not_or] at hquote
  cases hmeans with
  | field => exact ⟨by simpa using hvalue, by simpa using hquote.2.2⟩
  | flag => exact trivial
  | date _ hdate => exact Date.isValid_of_read? hdate

theorem Condition.isWritable_ofToken {token : List Char} (hne : token ≠ []) (hquote : '"' ∉ token) :
    (ofToken token).IsWritable := by
  rcases ofToken_cases token with hnames | htext
  · exact isWritable_of_names hquote hnames
  · rw [htext]
    exact ⟨by simpa using hne, by simpa using hquote, by rw [String.toList_ofList, htext]⟩

theorem Term.isWritable_ofToken {token : List Char} (hne : token ≠ []) (hquote : '"' ∉ token) :
    (ofToken token).IsWritable := by
  by_cases hnegated : IsNegated token
  · obtain ⟨hmark, hrest⟩ := hnegated
    obtain ⟨d, rest, rfl⟩ := List.exists_cons_of_ne_nil hrest
    rw [List.mem_cons, not_or] at hquote
    have hcondition := Condition.isWritable_ofToken hrest hquote.2
    simp only [ofToken, hmark, if_true]
    exact ⟨hcondition, fun h => by cases h⟩
  · rw [ofToken_of_not_isNegated hnegated]
    refine ⟨Condition.isWritable_ofToken hne hquote, fun _ v hv => ?_⟩
    rcases Condition.ofToken_cases token with hnames | htext
    · exact absurd hv (hnames.ne_text v)
    · rw [htext, Condition.text.injEq] at hv
      rwa [← hv, String.toList_ofList]

theorem parse_write_iff (terms : List Term) :
    parse (write terms) = terms ↔ ∀ term ∈ terms, term.IsWritable := by
  constructor
  · intro h term hterm
    rw [← h, parse] at hterm
    obtain ⟨token, htoken, rfl⟩ := List.mem_map.mp hterm
    obtain ⟨hne, hquote⟩ := of_mem_tokensFrom List.not_mem_nil htoken
    exact Term.isWritable_ofToken hne hquote
  · exact parse_write

end Letterbox.Query
