import Letterbox.Proofs.Text.Lines
import Letterbox.Query.Reader

namespace Letterbox.Query

open Text

def Flag.spellings : Flag → List (String × String)
  | .read => [("is", "read")]
  | .unread => [("is", "unread")]
  | .tagged => [("is", "tagged")]
  | .attachment => [("has", "attachment"), ("has", "attachments")]
  | .inlinePart => [("has", "inline")]

inductive Means (name value : List Char) : Condition → Prop
  | field {f : Field} (hname : name = f.name.toList) :
    Means name value (.field f (String.ofList value))
  | flag {f : Flag} (hspelled : (String.ofList name, String.ofList (lower value)) ∈ f.spellings) :
    Means name value (.flag f)
  | date {side : Side} {d : Date} (hname : name = side.name.toList)
    (hdate : Date.read? value = some d) : Means name value (.date side d)

inductive Names : List Char → Condition → Prop
  | intro {name value : List Char} {c : Condition} (hname : ':' ∉ name) (hvalue : value ≠ [])
    (hmeans : Means (lower name) value c) : Names (name ++ ':' :: value) c

inductive IsNegated : List Char → Prop
  | intro {c : Char} {token : List Char} (hmark : isNegation c = true) (htoken : token ≠ []) :
    IsNegated (c :: token)

structure IsPlain (token : List Char) : Prop where
  unmarked : ¬ IsNegated token
  unprefixed : ∀ c, ¬ Names token c

theorem flagOf?_eq_some_iff {name value : List Char} {f : Flag} :
    flagOf? name value = some f ↔ (String.ofList name, String.ofList value) ∈ f.spellings := by
  constructor
  · intro h
    unfold flagOf? at h
    split at h <;> cases h
    all_goals
      rename_i hname hvalue
      rw [hname, hvalue]
      decide
  · intro h
    cases f <;>
      simp only [Flag.spellings, List.mem_cons, List.not_mem_nil, or_false, Prod.mk.injEq] at h
    case attachment =>
      rcases h with ⟨hname, hvalue⟩ | ⟨hname, hvalue⟩ <;> simp only [flagOf?, hname, hvalue]
    all_goals
      obtain ⟨hname, hvalue⟩ := h
      simp only [flagOf?, hname, hvalue]

theorem fieldOf?_of_spelling {name : List Char} {value : String} {f : Flag}
    (h : (String.ofList name, value) ∈ f.spellings) : fieldOf? name = none := by
  have hname : String.ofList name = "is" ∨ String.ofList name = "has" := by
    cases f <;>
      simp only [Flag.spellings, List.mem_cons, List.not_mem_nil, or_false, Prod.mk.injEq] at h <;>
      tauto
  rw [← String.toList_ofList (l := name)]
  rcases hname with hname | hname <;> rw [hname] <;> decide +kernel

theorem fieldOf?_eq_some {name : List Char} {f : Field} (h : fieldOf? name = some f) :
    name = f.name.toList := by
  have hname := List.find?_some h
  exact (eq_of_beq hname).symm

theorem sideOf?_eq_some {name : List Char} {side : Side} (h : sideOf? name = some side) :
    name = side.name.toList := by
  unfold sideOf? at h
  split at h
  · rename_i hname
    cases h
    exact eq_of_beq hname
  · split at h
    · rename_i hname
      cases h
      exact eq_of_beq hname
    · cases h

theorem means_of_prefixed? {name value : List Char} {c : Condition}
    (h : prefixed? name value = some c) : value ≠ [] ∧ Means name value c := by
  unfold prefixed? at h
  split at h
  · cases h
  · rename_i hvalue
    refine ⟨by simpa using hvalue, ?_⟩
    split at h
    · rename_i f hf
      cases h
      exact .field (fieldOf?_eq_some hf)
    · split at h
      · rename_i f hf
        cases h
        exact .flag (flagOf?_eq_some_iff.mp hf)
      · obtain ⟨side, hside, hdated⟩ := Option.bind_eq_some_iff.mp h
        obtain ⟨d, hd, rfl⟩ := Option.map_eq_some_iff.mp hdated
        exact .date (sideOf?_eq_some hside) hd

theorem Means.prefixed? {name value : List Char} {c : Condition} (h : Means name value c)
    (hvalue : value ≠ []) : prefixed? name value = some c := by
  have hempty : value.isEmpty = false := by simpa using hvalue
  cases h with
  | @field f hname =>
    have hfield : fieldOf? name = some f := by
      rw [hname]
      cases f <;> decide +kernel
    simp only [Query.prefixed?, hempty, Bool.false_eq_true, if_false, hfield]
  | @flag f hspelled =>
    simp only [Query.prefixed?, hempty, Bool.false_eq_true, if_false,
      fieldOf?_of_spelling hspelled, flagOf?_eq_some_iff.mpr hspelled]
  | @date side d hname hdate =>
    have hfield : fieldOf? name = none := by
      rw [hname]
      cases side <;> decide +kernel
    have hflag : flagOf? name (lower value) = none := by
      rw [hname]
      cases side <;> simp [flagOf?, Side.name]
    have hside : sideOf? name = some side := by
      rw [hname]
      cases side <;> decide +kernel
    simp only [Query.prefixed?, hempty, Bool.false_eq_true, if_false, hfield, hflag, hside,
      Option.bind_some, hdate, Option.map_some]

theorem names_of_named {token : List Char} {c : Condition}
    (h : ((cut (· == ':') token).bind fun r => prefixed? (lower r.1) r.2) = some c) :
    Names token c := by
  obtain ⟨⟨name, value⟩, hcut, hprefixed⟩ := Option.bind_eq_some_iff.mp h
  obtain ⟨hvalue, hmeans⟩ := means_of_prefixed? hprefixed
  obtain ⟨b, rfl, hb, hname⟩ := eq_append_of_cut hcut
  obtain rfl := eq_of_beq hb
  refine .intro ?_ hvalue hmeans
  intro hmem
  simpa using hname ':' hmem

theorem Names.ofToken {token : List Char} {c : Condition} (h : Names token c) :
    Condition.ofToken token = c := by
  obtain ⟨hname, hvalue, hmeans⟩ := h
  have hcolon : ∀ a ∈ _, (a == ':') = false := fun a ha =>
    beq_eq_false_iff_ne.mpr fun heq => hname (heq ▸ ha)
  rw [Condition.ofToken, cut_append hcolon (beq_self_eq_true ':'), Option.bind_some,
    hmeans.prefixed? hvalue]

theorem Names.field (f : Field) {value : List Char} (hvalue : value ≠ []) :
    Names (f.name.toList ++ ':' :: value) (.field f (String.ofList value)) := by
  refine .intro ?_ hvalue (.field ?_)
  · cases f <;> decide +kernel
  · cases f <;> decide +kernel

theorem Names.ne_text {token : List Char} {c : Condition} (h : Names token c) (v : String) :
    c ≠ .text v := by
  obtain ⟨-, -, hmeans⟩ := h
  cases hmeans <;> simp

theorem Names.ne_empty {token : List Char} {f : Field} {v : String} (h : Names token (.field f v)) :
    v ≠ "" := by
  obtain ⟨-, hvalue, hmeans⟩ := h
  cases hmeans
  simpa using hvalue

theorem Condition.ofToken_cases (token : List Char) : Names token (Condition.ofToken token) ∨
    Condition.ofToken token = .text (String.ofList token) := by
  cases hnamed : (cut (· == ':') token).bind fun r => prefixed? (lower r.1) r.2 with
  | none => exact Or.inr (by rw [Condition.ofToken, hnamed])
  | some c =>
    have hnames := names_of_named hnamed
    exact Or.inl (hnames.ofToken.symm ▸ hnames)

theorem Condition.ofToken_eq_text_iff {token : List Char} :
    Condition.ofToken token = .text (String.ofList token) ↔ ∀ c, ¬ Names token c := by
  constructor
  · intro h c hnames
    exact hnames.ne_text _ (hnames.ofToken.symm.trans h)
  · intro h
    exact (Condition.ofToken_cases token).resolve_left (h _)

theorem Term.exists_condition (token : List Char) :
    ∃ rest, (Term.ofToken token).condition = .ofToken rest := by
  unfold Term.ofToken
  split
  · split <;> exact ⟨_, rfl⟩
  · exact ⟨_, rfl⟩

theorem Term.negated_ofToken_iff {token : List Char} :
    (Term.ofToken token).negated = true ↔ IsNegated token := by
  constructor
  · intro h
    unfold Term.ofToken at h
    split at h
    · split at h
      · rename_i hmark
        exact .intro hmark (List.cons_ne_nil _ _)
      · cases h
    · cases h
  · rintro ⟨hmark, htoken⟩
    obtain ⟨d, rest, rfl⟩ := List.exists_cons_of_ne_nil htoken
    simp [Term.ofToken, hmark]

theorem Term.ofToken_of_not_isNegated {token : List Char} (h : ¬ IsNegated token) :
    Term.ofToken token = ⟨.ofToken token, false⟩ := by
  unfold Term.ofToken
  split
  · split
    · rename_i hmark
      exact absurd (.intro hmark (List.cons_ne_nil _ _)) h
    · rfl
  · rfl

theorem Term.ofToken_eq_text_iff {token : List Char} :
    Term.ofToken token = ⟨.text (String.ofList token), false⟩ ↔ IsPlain token := by
  constructor
  · intro h
    have hunmarked : ¬ IsNegated token := by
      rw [← Term.negated_ofToken_iff, h]
      exact Bool.false_ne_true
    rw [Term.ofToken_of_not_isNegated hunmarked, Term.mk.injEq] at h
    exact ⟨hunmarked, Condition.ofToken_eq_text_iff.mp h.1⟩
  · rintro ⟨hunmarked, hunprefixed⟩
    rw [Term.ofToken_of_not_isNegated hunmarked, Condition.ofToken_eq_text_iff.mpr hunprefixed]

end Letterbox.Query
