import Letterbox.Json.Parser
import Letterbox.Json.Printer
import Letterbox.Proofs.Text.Decimal
import Mathlib.Tactic.SplitIfs

namespace Letterbox.Json

open Letterbox.Text

theorem parseHex4_control {n : Nat} (hn : n < 32) (s : List Char) :
    parseHex4 ('0' :: '0' :: hexDigit (n / 16) :: hexDigit (n % 16) :: s) = some (n, s) := by
  have hzero : hexValue? '0' = some 0 := rfl
  have hhigh := hexValue?_hexDigit (n / 16) (by omega)
  have hlow := hexValue?_hexDigit (n % 16) (by omega)
  simp only [parseHex4, hzero, hhigh, hlow, Option.bind_eq_bind, Option.bind_some, Option.pure_def,
    Option.some.injEq, Prod.mk.injEq, and_true]
  omega

theorem parseUnicodeEscape_control {c : Char} (hc : c.toNat < 32) (s : List Char) :
    parseUnicodeEscape ('0' :: '0' :: hexDigit (c.toNat / 16) :: hexDigit (c.toNat % 16) :: s) =
      some (some c, s) := by
  have hlow : isLowSurrogate c.toNat = false := by simp [isLowSurrogate]; omega
  have hhigh : isHighSurrogate c.toNat = false := by simp [isHighSurrogate]; omega
  simp [parseUnicodeEscape, parseHex4_control hc, hlow, hhigh, Char.ofNat_toNat]

theorem parseStringBody_escapeChar (fuel : Nat) (c : Char) (s : List Char) :
    parseStringBody (fuel + 1) (escapeChar c ++ s) =
      (parseStringBody fuel s).map (consChar (some c)) := by
  have hback : ∀ n, c.toNat = n → Char.ofNat n = c := by
    rintro n rfl
    exact Char.ofNat_toNat c
  unfold escapeChar
  split_ifs with hquote hslash hline hreturn htab hback8 hback12 hcontrol
  · obtain rfl : c = '"' := by simpa using hquote
    cases h : parseStringBody fuel s <;> simp [parseStringBody, simpleEscape?, h]
  · obtain rfl : c = '\\' := by simpa using hslash
    cases h : parseStringBody fuel s <;> simp [parseStringBody, simpleEscape?, h]
  · obtain rfl : c = '\n' := by simpa using hline
    cases h : parseStringBody fuel s <;> simp [parseStringBody, simpleEscape?, h]
  · obtain rfl : c = '\r' := by simpa using hreturn
    cases h : parseStringBody fuel s <;> simp [parseStringBody, simpleEscape?, h]
  · obtain rfl : c = '\t' := by simpa using htab
    cases h : parseStringBody fuel s <;> simp [parseStringBody, simpleEscape?, h]
  · have hc := hback 8 (by simpa using hback8)
    cases h : parseStringBody fuel s <;> simp [parseStringBody, simpleEscape?, h, ← hc]
  · have hc := hback 12 (by simpa using hback12)
    cases h : parseStringBody fuel s <;> simp [parseStringBody, simpleEscape?, h, ← hc]
  · have hescape := parseUnicodeEscape_control hcontrol s
    cases h : parseStringBody fuel s <;> simp [parseStringBody, hescape, h]
  · have hnot : ¬ c.toNat < 32 := hcontrol
    cases h : parseStringBody fuel s <;>
      simp_all [parseStringBody]

theorem length_le_escaped (s : List Char) : s.length ≤ (s.flatMap escapeChar).length := by
  induction s with
  | nil => simp
  | cons c s ih =>
    have hone : 1 ≤ (escapeChar c).length := by
      unfold escapeChar
      split_ifs <;> simp
    rw [List.flatMap_cons, List.length_append, List.length_cons]
    omega

theorem parseStringBody_escaped (fuel : Nat) (s rest : List Char) (hfuel : s.length < fuel) :
    parseStringBody fuel (s.flatMap escapeChar ++ '"' :: rest) = some (some s, rest) := by
  induction s generalizing fuel with
  | nil =>
    obtain ⟨fuel, rfl⟩ : ∃ n, fuel = n + 1 := ⟨fuel - 1, by omega⟩
    simp [parseStringBody]
  | cons c s ih =>
    simp only [List.length_cons] at hfuel
    obtain ⟨fuel, rfl⟩ : ∃ n, fuel = n + 1 := ⟨fuel - 1, by omega⟩
    rw [List.flatMap_cons, List.append_assoc, parseStringBody_escapeChar, ih fuel (by omega)]
    rfl

theorem parseStringBody_string (t : String) (rest : List Char) :
    parseStringBody ((t.toList.flatMap escapeChar ++ '"' :: rest).length + 1)
      (t.toList.flatMap escapeChar ++ '"' :: rest) = some (some t.toList, rest) := by
  apply parseStringBody_escaped
  have := length_le_escaped t.toList
  rw [List.length_append]
  omega

theorem renderString_append (t rest : List Char) :
    renderString t ++ rest = '"' :: (t.flatMap escapeChar ++ '"' :: rest) := by
  simp [renderString]

theorem parseString_renderString (k : String) (rest : List Char) :
    parseString (renderString k.toList ++ rest) = some (k, rest) := by
  rw [renderString_append]
  simp only [parseString, parseStringBody_string, String.ofList_toList]

theorem parseStringValue_escaped (t : String) (rest : List Char) :
    parseStringValue (t.toList.flatMap escapeChar ++ '"' :: rest) = some (.string t, rest) := by
  simp only [parseStringValue, parseStringBody_string, Option.map_some, String.ofList_toList]

def endsValue : List Char → Bool
  | [] => true
  | c :: _ => c == ',' || c == ']' || c == '\x7d'

theorem head_of_endsValue {c : Char} {s : List Char} (h : endsValue (c :: s) = true) :
    c = ',' ∨ c = ']' ∨ c = '\x7d' := by
  simpa [endsValue, or_assoc] using h

theorem parseFraction_of_endsValue {rest : List Char} (h : endsValue rest = true) :
    parseFraction rest = some ([], rest) := by
  cases rest with
  | nil => rfl
  | cons c s => rcases head_of_endsValue h with rfl | rfl | rfl <;> rfl

theorem parseExponent_of_endsValue {rest : List Char} (h : endsValue rest = true) :
    parseExponent rest = some ([], rest) := by
  cases rest with
  | nil => rfl
  | cons c s => rcases head_of_endsValue h with rfl | rfl | rfl <;> rfl

theorem not_isDigit_of_endsValue {rest : List Char} (h : endsValue rest = true) :
    ∀ c ∈ rest.head?, isDigit c = false := by
  intro c hc
  cases rest with
  | nil => simp at hc
  | cons d s =>
    obtain rfl : d = c := by simpa using hc
    rcases head_of_endsValue h with rfl | rfl | rfl <;> rfl

theorem splitSign_digits (n : Nat) (rest : List Char) :
    splitSign (digits n ++ rest) = ([], digits n ++ rest) := by
  obtain ⟨d, ds, hds⟩ := List.exists_cons_of_ne_nil (digits_ne_nil n)
  have hd : isDigit d = true := isDigit_of_mem_digits (n := n) (by simp [hds])
  have hne : d ≠ '-' := by
    rintro rfl
    simp [isDigit] at hd
  rw [hds]
  simp [splitSign, hne]

theorem parseNumber_of_splitSign {s sign : List Char} (n : Nat) (rest : List Char)
    (hsign : splitSign s = (sign, digits n ++ rest)) (h : endsValue rest = true) :
    parseNumber s = some (numberOf sign (digits n) [] [], rest) := by
  have htake := takeWhile_digits n rest (not_isDigit_of_endsValue h)
  have hdrop := dropWhile_digits n rest (not_isDigit_of_endsValue h)
  have hempty : (digits n).isEmpty = false := by simpa using digits_ne_nil n
  simp [parseNumber, hsign, htake, hdrop, hempty, no_leading_zero, parseFraction_of_endsValue h,
    parseExponent_of_endsValue h]

theorem parseNumber_intDigits (i : Int) (rest : List Char) (h : endsValue rest = true) :
    parseNumber (intDigits i ++ rest) = some (.int i, rest) := by
  unfold intDigits
  split_ifs with hneg
  · have hne : (i.natAbs != 0) = true := by simp; omega
    have habs : -(i.natAbs : Int) = i := by omega
    have hsign : splitSign ('-' :: digits i.natAbs ++ rest) =
        (['-'], digits i.natAbs ++ rest) := rfl
    have hnumber : numberOf ['-'] (digits i.natAbs) [] [] = .int i := by
      simp only [numberOf, ofDigits_digits, hne, List.isEmpty_nil, List.isEmpty_cons, Bool.and_self,
        Bool.false_or, if_true, Bool.false_eq_true, if_false, habs]
    rw [parseNumber_of_splitSign i.natAbs rest hsign h, hnumber]
  · have habs : (i.natAbs : Int) = i := by omega
    have hnumber : numberOf [] (digits i.natAbs) [] [] = .int i := by
      simp only [numberOf, ofDigits_digits, List.isEmpty_nil, Bool.and_self, Bool.true_or, if_true,
        habs]
    rw [parseNumber_of_splitSign i.natAbs rest (splitSign_digits _ _) h, hnumber]

theorem head_intDigits (i : Int) :
    ∃ c s, intDigits i = c :: s ∧ (c = '-' ∨ isDigit c = true) := by
  obtain ⟨d, ds, hds⟩ := List.exists_cons_of_ne_nil (digits_ne_nil i.natAbs)
  unfold intDigits
  split_ifs with hneg
  · exact ⟨'-', _, rfl, Or.inl rfl⟩
  · exact ⟨d, ds, hds, Or.inr (isDigit_of_mem_digits (n := i.natAbs) (by simp [hds]))⟩

theorem parseValue_intDigits (fuel : Nat) (i : Int) (rest : List Char)
    (h : endsValue rest = true) :
    parseValue (fuel + 1) (intDigits i ++ rest) = some (.int i, rest) := by
  have hnumber := parseNumber_intDigits i rest h
  obtain ⟨c, s, hs, hc⟩ := head_intDigits i
  rw [hs, List.cons_append] at hnumber ⊢
  unfold parseValue
  -- the other forms begin with characters that no number begins with
  split
  all_goals first
    | exact hnumber
    | (simp only [List.cons.injEq] at *
       rcases hc with rfl | hc <;> simp_all [isDigit])

inductive Plain : Json → Prop
  | null : Plain .null
  | bool (b : Bool) : Plain (.bool b)
  | int (i : Int) : Plain (.int i)
  | string (t : String) : Plain (.string t)
  | array {items : List Json} : (∀ v ∈ items, Plain v) → Plain (.array items)
  | object {fields : List (String × Json)} : (∀ f ∈ fields, Plain f.2) → Plain (.object fields)

theorem not_isSpace_of_isDigit {c : Char} (hc : isDigit c = true) : isSpace c = false := by
  cases hspace : isSpace c with
  | false => rfl
  | true =>
    simp only [isSpace, Bool.or_eq_true, beq_iff_eq] at hspace
    rcases hspace with ((rfl | rfl) | rfl) | rfl <;> simp [isDigit] at hc

theorem head_renderChars {v : Json} (hv : Plain v) :
    ∃ c s, renderChars v = c :: s ∧ isSpace c = false ∧ c ≠ ']' := by
  cases hv with
  | null => exact ⟨_, _, rfl, rfl, by decide⟩
  | bool b => cases b <;> exact ⟨_, _, rfl, rfl, by decide⟩
  | int i =>
    obtain ⟨c, s, hs, hc⟩ := head_intDigits i
    refine ⟨c, s, hs, ?_⟩
    rcases hc with rfl | hc
    · exact ⟨rfl, by decide⟩
    · exact ⟨not_isSpace_of_isDigit hc, by rintro rfl; simp [isDigit] at hc⟩
  | string t => exact ⟨_, _, rfl, rfl, by decide⟩
  | array h => exact ⟨_, _, by rw [renderChars], rfl, by decide⟩
  | object h => exact ⟨_, _, by rw [renderChars], rfl, by decide⟩

theorem skipSpace_renderChars {v : Json} (hv : Plain v) (rest : List Char) :
    skipSpace (renderChars v ++ rest) = renderChars v ++ rest := by
  obtain ⟨c, s, hs, hspace, -⟩ := head_renderChars hv
  simp [skipSpace, hs, hspace]

def ReadsBack (v : Json) : Prop :=
  ∀ fuel rest, endsValue rest = true → (renderChars v).length < fuel →
    parseValue fuel (renderChars v ++ rest) = some (v, rest)

theorem parseItems_renderItems (items : List Json) (hne : items ≠ [])
    (hplain : ∀ v ∈ items, Plain v) (hback : ∀ v ∈ items, ReadsBack v) (fuel : Nat)
    (rest : List Char) (hfuel : (renderItems items).length < fuel) :
    parseItems fuel (renderItems items ++ rest) = some (items, rest) := by
  obtain ⟨fuel, rfl⟩ : ∃ n, fuel = n + 1 := ⟨fuel - 1, by omega⟩
  induction items generalizing fuel with
  | nil => exact absurd rfl hne
  | cons v items ih =>
    have hv := hback v (by simp)
    cases items with
    | nil =>
      simp only [renderItems, List.length_append, List.length_singleton] at hfuel
      have hread := hv fuel (']' :: rest) rfl (by omega)
      simp only [renderItems, List.append_assoc, List.singleton_append, parseItems, hread]
      rfl
    | cons w items =>
      simp only [renderItems, List.length_append, List.length_cons] at hfuel
      have hread := hv fuel (',' :: (renderItems (w :: items) ++ rest)) rfl (by omega)
      obtain ⟨fuel, rfl⟩ : ∃ n, fuel = n + 1 := ⟨fuel - 1, by omega⟩
      have htail := ih (by simp) (fun u hu => hplain u (by simp [hu]))
        (fun u hu => hback u (by simp [hu])) fuel (by omega)
      have hskip : skipSpace (renderItems (w :: items) ++ rest) =
          renderItems (w :: items) ++ rest := by
        obtain ⟨c, s, hs, hspace, -⟩ := head_renderChars (hplain w (by simp))
        cases items <;> simp [renderItems, skipSpace, hs, hspace]
      have hcomma (s : List Char) : skipSpace (',' :: s) = ',' :: s := rfl
      rw [renderItems, List.append_assoc, List.cons_append, parseItems, hread]
      simp only [hcomma, hskip, htail, Option.map_some]

theorem parseFields_renderFields (fields : List (String × Json)) (hne : fields ≠ [])
    (hplain : ∀ f ∈ fields, Plain f.2) (hback : ∀ f ∈ fields, ReadsBack f.2) (fuel : Nat)
    (rest : List Char) (hfuel : (renderFields fields).length < fuel) :
    parseFields fuel (renderFields fields ++ rest) = some (fields, rest) := by
  obtain ⟨fuel, rfl⟩ : ∃ n, fuel = n + 1 := ⟨fuel - 1, by omega⟩
  induction fields generalizing fuel with
  | nil => exact absurd rfl hne
  | cons f fields ih =>
    obtain ⟨k, v⟩ := f
    have hv : ReadsBack v := hback (k, v) (by simp)
    have hcolon (s : List Char) : skipSpace (':' :: s) = ':' :: s := rfl
    have hcomma (s : List Char) : skipSpace (',' :: s) = ',' :: s := rfl
    cases fields with
    | nil =>
      simp only [renderFields, List.length_append, List.length_cons, List.length_nil] at hfuel
      have hread := hv fuel ('\x7d' :: rest) rfl (by omega)
      simp only [renderFields, List.append_assoc, List.cons_append, List.nil_append, parseFields,
        parseString_renderString, hcolon, skipSpace_renderChars (hplain (k, v) (by simp)), hread]
      rfl
    | cons g fields =>
      simp only [renderFields, List.length_append, List.length_cons] at hfuel
      have hread := hv fuel (',' :: (renderFields (g :: fields) ++ rest)) rfl (by omega)
      obtain ⟨fuel, rfl⟩ : ∃ n, fuel = n + 1 := ⟨fuel - 1, by omega⟩
      have htail := ih (by simp) (fun u hu => hplain u (by simp [hu]))
        (fun u hu => hback u (by simp [hu])) fuel (by omega)
      have hskip : skipSpace (renderFields (g :: fields) ++ rest) =
          renderFields (g :: fields) ++ rest := by
        cases fields <;> simp [renderFields, renderString, skipSpace, isSpace]
      rw [renderFields]
      simp only [List.append_assoc, List.cons_append]
      rw [parseFields]
      simp only [parseString_renderString, hcolon, skipSpace_renderChars (hplain (k, v) (by simp)),
        hread, hcomma, hskip, htail, Option.map_some]

theorem readsBack_of_plain {v : Json} (hv : Plain v) : ReadsBack v := by
  induction hv with
  | null =>
    intro fuel rest _ hfuel
    obtain ⟨fuel, rfl⟩ : ∃ n, fuel = n + 1 := ⟨fuel - 1, by omega⟩
    simp [renderChars, parseValue]
  | bool b =>
    intro fuel rest _ hfuel
    obtain ⟨fuel, rfl⟩ : ∃ n, fuel = n + 1 := ⟨fuel - 1, by omega⟩
    cases b <;> simp [renderChars, parseValue]
  | int i =>
    intro fuel rest hrest hfuel
    obtain ⟨fuel, rfl⟩ : ∃ n, fuel = n + 1 := ⟨fuel - 1, by omega⟩
    exact parseValue_intDigits fuel i rest hrest
  | string t =>
    intro fuel rest _ hfuel
    obtain ⟨fuel, rfl⟩ : ∃ n, fuel = n + 1 := ⟨fuel - 1, by omega⟩
    rw [renderChars, renderString_append, parseValue]
    exact parseStringValue_escaped t rest
  | @array items hplain ih =>
    intro fuel rest _ hfuel
    obtain ⟨fuel, rfl⟩ : ∃ n, fuel = n + 1 := ⟨fuel - 1, by omega⟩
    simp only [renderChars, List.length_cons] at hfuel
    cases items with
    | nil => simp [renderChars, renderItems, parseValue, skipSpace, isSpace]
    | cons v items =>
      have hitems := parseItems_renderItems (v :: items) (by simp) hplain ih fuel rest (by omega)
      obtain ⟨c, s, hs, hspace, hclose⟩ := head_renderChars (hplain v (by simp))
      obtain ⟨t, ht⟩ : ∃ t, renderItems (v :: items) ++ rest = c :: t := by
        cases items <;> simp [renderItems, hs]
      have hskip : skipSpace (c :: t) = c :: t := by simp [skipSpace, hspace]
      rw [ht] at hitems
      rw [renderChars, List.cons_append, parseValue, ht, hskip]
      simp [hclose, hitems]
  | @object fields hplain ih =>
    intro fuel rest _ hfuel
    obtain ⟨fuel, rfl⟩ : ∃ n, fuel = n + 1 := ⟨fuel - 1, by omega⟩
    simp only [renderChars, List.length_cons] at hfuel
    cases fields with
    | nil => simp [renderChars, renderFields, parseValue, skipSpace, isSpace]
    | cons f fields =>
      have hfields :=
        parseFields_renderFields (f :: fields) (by simp) hplain ih fuel rest (by omega)
      obtain ⟨t, ht⟩ : ∃ t, renderFields (f :: fields) ++ rest = '"' :: t := by
        cases fields <;> simp [renderFields, renderString]
      have hskip : skipSpace ('"' :: t) = '"' :: t := rfl
      rw [ht] at hfields
      rw [renderChars, List.cons_append, parseValue, ht, hskip]
      simp [hfields]

theorem parse?_render {v : Json} (hv : Plain v) : parse? v.render = some v := by
  have hread := readsBack_of_plain hv ((renderChars v).length + 1) [] rfl (by omega)
  have hskip := skipSpace_renderChars hv []
  simp only [List.append_nil] at hread hskip
  rw [parse?, render, String.toList_ofList, parseChars?, hskip, hread]
  rfl

end Letterbox.Json
