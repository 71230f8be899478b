import Letterbox.Config.Layers
import Letterbox.Proofs.Text.Case
import Letterbox.Proofs.Text.Decimal

namespace Letterbox

namespace Text

theorem lower_of_ascii {s : List Char} (h : ∀ c ∈ s, c.toNat < 128) : lower s = lowerAscii s := by
  have hafter (before : List Char) : lowerAfter before s = lowerAscii s := by
    induction s generalizing before with
    | nil => rfl
    | cons c s ih =>
      obtain ⟨hc, hs⟩ := List.forall_mem_cons.mp h
      have hsigma : (c == 'Σ') = false := by
        rw [beq_eq_false_iff_ne]
        rintro rfl
        exact absurd hc (by decide)
      have hlower : lowerChar c = [c.toLower] := by rw [lowerChar, if_pos hc]
      rw [lowerAfter_cons, lowerAt, hsigma, if_neg Bool.false_ne_true, hlower, ih hs]
      rfl
  exact hafter []

end Text

namespace Layers

open Text

/-- The text that a setting has from a variable. -/
def written (s : String) : String :=
  if lowered s = "true" ∨ lowered s = "false" then lowered s
  else match int64? s.toList with
    | some i => String.ofList (intDigits i)
    | none =>
      match Binary64.read? s.toList with
      | some x => String.ofList x.text
      | none => s

theorem asString_ofVariable (s : String) : asString (ofVariable s) = some (written s) := by
  have hlowered : String.ofList (lower s.toList) = lowered s := rfl
  rw [ofVariable, hlowered, written]
  split
  · rename_i h
    rw [h]
    rfl
  · rename_i h
    rw [h]
    rfl
  · rename_i htrue hfalse
    rw [if_neg (not_or.mpr ⟨htrue, hfalse⟩)]
    cases int64? s.toList with
    | some i => rfl
    | none => cases Binary64.read? s.toList <;> rfl

theorem ofVariable_ne_table (s : String) (fields : List (String × Toml)) :
    ofVariable s ≠ .table fields := by
  rintro h
  have hstring := asString_ofVariable s
  rw [h] at hstring
  cases hstring

def IsDigits (s : List Char) : Prop :=
  s ≠ [] ∧ ∀ c ∈ s, isDigit c = true

def Signed (p : List Char → Prop) (s : List Char) : Prop :=
  p s ∨ ∃ u, p u ∧ (s = '+' :: u ∨ s = '-' :: u)

def IsExponent (s : List Char) : Prop :=
  s = [] ∨ ∃ u, Signed IsDigits u ∧ (s = 'e' :: u ∨ s = 'E' :: u)

def IsDecimal (s : List Char) : Prop :=
  ∃ whole fraction exponent, IsDigits (whole ++ fraction) ∧ IsExponent exponent ∧
    (s = whole ++ '.' :: (fraction ++ exponent) ∨ fraction = [] ∧ s = whole ++ exponent)

def IsNumberName (s : List Char) : Prop :=
  String.ofList (lowerAscii s) ∈ ["inf", "infinity", "nan"]

def IsNumber : List Char → Prop :=
  Signed fun s => IsDecimal s ∨ IsNumberName s

theorem Signed.imp {p q : List Char → Prop} (h : ∀ s, p s → q s) {s : List Char}
    (hs : Signed p s) : Signed q s :=
  Or.imp (h s) (Exists.imp fun u => And.imp_left (h u)) hs

def splitSign {α : Type} (minus plus : α) : List Char → α × List Char
  | '-' :: s => (minus, s)
  | '+' :: s => (plus, s)
  | s => (plus, s)

theorem signed_iff {α : Type} (minus plus : α) {p : List Char → Prop}
    (hp : ∀ u, ¬ p ('+' :: u) ∧ ¬ p ('-' :: u)) (s : List Char) :
    Signed p s ↔ p (splitSign minus plus s).2 := by
  unfold splitSign
  split
  · rename_i u
    refine ⟨?_, fun h => Or.inr ⟨u, h, Or.inr rfl⟩⟩
    rintro (h | ⟨v, hv, h | h⟩)
    · exact absurd h (hp u).2
    · cases h
    · cases h
      exact hv
  · rename_i u
    refine ⟨?_, fun h => Or.inr ⟨u, h, Or.inl rfl⟩⟩
    rintro (h | ⟨v, hv, h | h⟩)
    · exact absurd h (hp u).1
    · cases h
      exact hv
    · cases h
  · rename_i hminus hplus
    refine ⟨?_, Or.inl⟩
    rintro (h | ⟨v, hv, rfl | rfl⟩)
    · exact h
    · exact absurd rfl (hplus v)
    · exact absurd rfl (hminus v)

theorem not_isDigits_cons {c : Char} (hc : isDigit c = false) (u : List Char) :
    ¬ IsDigits (c :: u) := by
  intro h
  exact Bool.false_ne_true (hc.symm.trans (h.2 c (List.mem_cons_self ..)))

theorem signed_isDigits_iff {α : Type} (minus plus : α) (s : List Char) :
    Signed IsDigits s ↔ ¬ ((splitSign minus plus s).2.isEmpty ||
      !(splitSign minus plus s).2.all isDigit) = true := by
  rw [signed_iff minus plus fun u => ⟨not_isDigits_cons rfl u, not_isDigits_cons rfl u⟩, IsDigits]
  simp

theorem integer?_eq (s : List Char) : integer? s =
    if (splitSign true false s).2.isEmpty || !(splitSign true false s).2.all isDigit then none
    else some (if (splitSign true false s).1 then -(ofDigits (splitSign true false s).2 : Int)
      else ofDigits (splitSign true false s).2) :=
  rfl

theorem isSome_integer?_iff (s : List Char) : (integer? s).isSome = true ↔ Signed IsDigits s := by
  rw [signed_isDigits_iff true false, integer?_eq]
  split <;> simp_all

def exponent? : List Char → Option Int
  | [] => some 0
  | c :: s =>
    if c == 'e' || c == 'E' then
      if (splitSign (-1 : Int) 1 s).2.isEmpty || !(splitSign (-1 : Int) 1 s).2.all isDigit then none
      else some ((splitSign (-1 : Int) 1 s).1 * ofDigits (splitSign (-1 : Int) 1 s).2)
    else none

theorem isSome_exponent?_iff (s : List Char) : (exponent? s).isSome = true ↔ IsExponent s := by
  cases s with
  | nil => simp [exponent?, IsExponent]
  | cons c s =>
    have hdigits := signed_isDigits_iff (-1 : Int) 1 s
    have hexponent : IsExponent (c :: s) ↔ (c = 'e' ∨ c = 'E') ∧ Signed IsDigits s := by
      simp [IsExponent, or_and_right, exists_or, and_comm]
    rw [hexponent, hdigits, exponent?]
    split
    · split <;> simp_all
    · simp_all

def fractionOf : List Char → List Char × List Char
  | '.' :: s => (s.takeWhile isDigit, s.dropWhile isDigit)
  | s => ([], s)

theorem fractionOf_cases (s : List Char) : (∀ c ∈ (fractionOf s).1, isDigit c = true) ∧
    (s = '.' :: ((fractionOf s).1 ++ (fractionOf s).2) ∨
      (fractionOf s).1 = [] ∧ s = (fractionOf s).2) := by
  unfold fractionOf
  split
  · exact ⟨fun c hc => List.mem_takeWhile_imp hc,
      Or.inl (by rw [List.takeWhile_append_dropWhile])⟩
  · exact ⟨nofun, Or.inr ⟨rfl, rfl⟩⟩

theorem readUnsigned_eq (negative : Bool) (s : List Char) :
    Binary64.readUnsigned negative s =
      if (s.takeWhile isDigit).isEmpty && (fractionOf (s.dropWhile isDigit)).1.isEmpty then none
      else (exponent? (fractionOf (s.dropWhile isDigit)).2).map fun e =>
        Binary64.ofDecimal negative (s.takeWhile isDigit ++ (fractionOf (s.dropWhile isDigit)).1)
          (e - (fractionOf (s.dropWhile isDigit)).1.length) :=
  rfl

theorem isDecimal_of_readUnsigned {negative : Bool} {s : List Char}
    (h : (Binary64.readUnsigned negative s).isSome = true) : IsDecimal s := by
  rw [readUnsigned_eq] at h
  split at h
  · cases h
  · rename_i hsome
    rw [Option.isSome_map, isSome_exponent?_iff] at h
    obtain ⟨hfraction, hrest⟩ := fractionOf_cases (s.dropWhile isDigit)
    have hs := (List.takeWhile_append_dropWhile (p := isDigit) (l := s)).symm
    refine ⟨s.takeWhile isDigit, _, _, ⟨by simpa [imp_iff_not_or] using hsome, ?_⟩, h, ?_⟩
    · exact List.forall_mem_append.mpr ⟨fun c hc => List.mem_takeWhile_imp hc, hfraction⟩
    · exact hrest.imp (fun hpoint => hs.trans (congrArg _ hpoint))
        (And.imp_right fun hrest => hs.trans (congrArg _ hrest))

theorem IsExponent.head {s : List Char} (h : IsExponent s) : ∀ c ∈ s.head?, c = 'e' ∨ c = 'E' := by
  rcases h with rfl | ⟨u, -, rfl | rfl⟩ <;> simp

theorem fractionOf_of_isExponent {s : List Char} (h : IsExponent s) : fractionOf s = ([], s) := by
  unfold fractionOf
  split
  · exact absurd (h.head '.' rfl) (by decide)
  · rfl

theorem isSome_readUnsigned {s : List Char} (h : IsDecimal s) (negative : Bool) :
    (Binary64.readUnsigned negative s).isSome = true := by
  obtain ⟨whole, fraction, exponent, ⟨hne, hdigits⟩, hexponent, hs⟩ := h
  obtain ⟨hwhole, hfraction⟩ := List.forall_mem_append.mp hdigits
  have hhead : ∀ c ∈ exponent.head?, isDigit c = false := by
    intro c hc
    rcases hexponent.head c hc with rfl | rfl <;> rfl
  have hparts : s.takeWhile isDigit = whole ∧
      fractionOf (s.dropWhile isDigit) = (fraction, exponent) := by
    rcases hs with rfl | ⟨rfl, rfl⟩
    · have hpoint : ∀ c ∈ ('.' :: (fraction ++ exponent)).head?, isDigit c = false := by
        rintro c ⟨⟩
        rfl
      rw [takeWhile_isDigit_append hwhole hpoint, dropWhile_isDigit_append hwhole hpoint,
        fractionOf, takeWhile_isDigit_append hfraction hhead,
        dropWhile_isDigit_append hfraction hhead]
      exact ⟨rfl, rfl⟩
    · rw [takeWhile_isDigit_append hwhole hhead, dropWhile_isDigit_append hwhole hhead]
      exact ⟨rfl, fractionOf_of_isExponent hexponent⟩
  rw [readUnsigned_eq, hparts.1, hparts.2, if_neg (by simpa [imp_iff_not_or] using hne),
    Option.isSome_map, isSome_exponent?_iff]
  exact hexponent

theorem read?_eq (s : List Char) : Binary64.read? s =
    match String.ofList (lowerAscii (splitSign true false s).2) with
    | "inf" => some (.infinite (splitSign true false s).1)
    | "infinity" => some (.infinite (splitSign true false s).1)
    | "nan" => some .notANumber
    | _ => Binary64.readUnsigned (splitSign true false s).1 (splitSign true false s).2 :=
  rfl

theorem not_isDecimal_cons {c : Char} (hc : isDigit c = false) (hpoint : c ≠ '.') (u : List Char) :
    ¬ IsDecimal (c :: u) := by
  rintro ⟨whole, fraction, exponent, ⟨hne, hdigits⟩, -, hs⟩
  cases whole with
  | nil =>
    rcases hs with hs | ⟨rfl, -⟩
    · cases hs
      exact hpoint rfl
    · exact hne rfl
  | cons d whole =>
    have hd : isDigit d = true := hdigits d (List.mem_cons_self ..)
    rcases hs with hs | ⟨-, hs⟩ <;> cases hs <;> exact Bool.false_ne_true (hc.symm.trans hd)

theorem not_isNumberName_cons {c : Char} (hc : c.toLower ≠ 'i' ∧ c.toLower ≠ 'n')
    (u : List Char) : ¬ IsNumberName (c :: u) := by
  intro h
  have hfirst : ∀ name ∈ ["inf", "infinity", "nan"],
      name.toList.head? = some 'i' ∨ name.toList.head? = some 'n' := by decide
  have hhead := hfirst _ h
  rw [String.toList_ofList] at hhead
  simp [lowerAscii, hc] at hhead

theorem isSome_read?_iff (s : List Char) : (Binary64.read? s).isSome = true ↔ IsNumber s := by
  have hsign (u : List Char) : ¬ (IsDecimal ('+' :: u) ∨ IsNumberName ('+' :: u)) ∧
      ¬ (IsDecimal ('-' :: u) ∨ IsNumberName ('-' :: u)) := by
    constructor <;>
      exact not_or.mpr ⟨not_isDecimal_cons rfl (by decide) u, not_isNumberName_cons (by decide) u⟩
  rw [IsNumber, signed_iff true false hsign, read?_eq]
  generalize splitSign true false s = t
  rw [IsNumberName]
  split
  · simp [*]
  · simp [*]
  · simp [*]
  · rename_i hinf hinfinity hnan
    have hunnamed : String.ofList (lowerAscii t.2) ∉ ["inf", "infinity", "nan"] := by
      simpa using ⟨hinf, hinfinity, hnan⟩
    rw [or_iff_left hunnamed]
    exact ⟨isDecimal_of_readUnsigned, fun h => isSome_readUnsigned h t.1⟩

theorem IsDigits.isDecimal {s : List Char} (h : IsDigits s) : IsDecimal s :=
  ⟨s, [], [], by rwa [List.append_nil], Or.inl rfl, Or.inr ⟨rfl, (List.append_nil s).symm⟩⟩

structure IsPlain (s : String) : Prop where
  noBool : lowered s ≠ "true" ∧ lowered s ≠ "false"
  noNumber : ¬ IsNumber s.toList

theorem int64?_of_isPlain {s : String} (h : IsPlain s) : int64? s.toList = none := by
  have hinteger : integer? s.toList = none := by
    rw [← Option.not_isSome_iff_eq_none, isSome_integer?_iff]
    exact fun hwhole => h.noNumber (hwhole.imp fun _ hdigits => Or.inl hdigits.isDecimal)
  rw [int64?, hinteger, Option.bind_none]

theorem read?_of_isPlain {s : String} (h : IsPlain s) : Binary64.read? s.toList = none := by
  rw [← Option.not_isSome_iff_eq_none, isSome_read?_iff]
  exact h.noNumber

theorem written_of_isPlain {s : String} (h : IsPlain s) : written s = s := by
  rw [written, if_neg (not_or.mpr h.noBool), int64?_of_isPlain h, read?_of_isPlain h]

theorem splitSign_of_digits {α : Type} (minus plus : α) {ds : List Char}
    (hds : ∀ c ∈ ds, isDigit c = true) : splitSign minus plus ds = (plus, ds) := by
  unfold splitSign
  split
  · exact absurd (hds '-' (by simp)) (by decide)
  · exact absurd (hds '+' (by simp)) (by decide)
  · rfl

theorem integer?_intDigits (i : Int) : integer? (intDigits i) = some i := by
  have hdigits : ∀ c ∈ digits i.natAbs, isDigit c = true := fun _ hc => isDigit_of_mem_digits hc
  have hread : (digits i.natAbs).isEmpty = false ∧ (digits i.natAbs).all isDigit = true := by
    simpa [digits_ne_nil] using hdigits
  rw [integer?_eq, intDigits]
  split
  · rename_i hnegative
    have hvalue : -(i.natAbs : Int) = i := by omega
    rw [splitSign, hread.1, hread.2, ofDigits_digits]
    exact congrArg some hvalue
  · rename_i hpositive
    have hvalue : (i.natAbs : Int) = i := by omega
    rw [splitSign_of_digits true false hdigits, hread.1, hread.2, ofDigits_digits]
    exact congrArg some hvalue

theorem of_mem_intDigits {i : Int} {c : Char} (hc : c ∈ intDigits i) :
    c.toNat < 128 ∧ c.toLower = c ∧ c ≠ 'e' := by
  have hsmall : c.toNat < 58 := by
    have hdigit (hc : c ∈ digits i.natAbs) : c.toNat < 58 := by
      have hd := isDigit_of_mem_digits hc
      rw [isDigit, Bool.and_eq_true, decide_eq_true_eq, decide_eq_true_eq] at hd
      omega
    rw [intDigits] at hc
    split at hc
    · rcases List.mem_cons.mp hc with rfl | hc
      · decide
      · exact hdigit hc
    · exact hdigit hc
  -- digits and the minus sign come before all letters
  have hall : ∀ n < 58, (Char.ofNat n).toLower = Char.ofNat n ∧ Char.ofNat n ≠ 'e' := by decide
  have hc := hall c.toNat hsmall
  rw [Char.ofNat_toNat] at hc
  exact ⟨by omega, hc⟩

theorem lowered_intDigits (i : Int) :
    lowered (String.ofList (intDigits i)) = String.ofList (intDigits i) := by
  have hsame : lowerAscii (intDigits i) = intDigits i :=
    (List.map_congr_left fun c hc => (of_mem_intDigits hc).2.1).trans (List.map_id _)
  rw [lowered, String.toList_ofList, lower_of_ascii fun c hc => (of_mem_intDigits hc).1, hsame]

theorem ofVariable_intDigits {i : Int} (hlow : -9223372036854775808 ≤ i)
    (hhigh : i ≤ 9223372036854775807) :
    ofVariable (String.ofList (intDigits i)) = .integer i := by
  have hread : int64? (intDigits i) = some i := by
    rw [int64?, integer?_intDigits, Option.bind_some, within, if_pos]
    simp [hlow, hhigh]
  have hnoBool : ∀ name ∈ ["true", "false"], lowered (String.ofList (intDigits i)) ≠ name := by
    rintro name hname h
    have hletter : ∀ name ∈ ["true", "false"], 'e' ∈ name.toList := by decide
    have hmem := hletter name hname
    rw [← h, lowered_intDigits, String.toList_ofList] at hmem
    exact (of_mem_intDigits hmem).2.2 rfl
  have hlowered : String.ofList (lower (String.ofList (intDigits i)).toList) =
      lowered (String.ofList (intDigits i)) := rfl
  rw [ofVariable, hlowered]
  split
  · rename_i htrue
    exact absurd htrue (hnoBool _ (by simp))
  · rename_i hfalse
    exact absurd hfalse (hnoBool _ (by simp))
  · rw [String.toList_ofList, hread]

theorem written_intDigits {i : Int} (hlow : -9223372036854775808 ≤ i)
    (hhigh : i ≤ 9223372036854775807) :
    written (String.ofList (intDigits i)) = String.ofList (intDigits i) := by
  have hstring := asString_ofVariable (String.ofList (intDigits i))
  rw [ofVariable_intDigits hlow hhigh] at hstring
  exact (Option.some.inj hstring).symm

end Layers

end Letterbox
