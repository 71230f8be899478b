import Letterbox.Mailbox.Inspection

namespace Letterbox

namespace Search

open Query Text

def holds (t : Tables) (r : Row) (term : Term) : Bool :=
  match conditionHolds? t r term.condition with
  | .ok b => b != term.negated
  | .error _ => false

section Settling

variable {i : Index} {t : Tables} {r : Row}

theorem exists_key (t : Tables) (r : Row) (i : Index) :
    ∃ key, ∀ c w, fixed? i c = some w → conditionHolds? t r c = .ok (key == w) := by
  cases i with
  | read =>
    refine ⟨if r.read then "1" else "0", fun c w h => ?_⟩
    cases c with
    | flag f =>
      cases f <;> cases h <;> cases hr : r.read <;> simp [conditionHolds?, flagHolds, hr]
    | _ => cases h
  | messageId =>
    refine ⟨r.messageId, fun c w h => ?_⟩
    cases c with
    | field f v =>
      cases f <;> cases h
      rfl
    | _ => cases h
  | _ => exact ⟨"", nofun⟩

theorem holds_of_fixed {key : String}
    (hkey : ∀ c w, fixed? i c = some w → conditionHolds? t r c = .ok (key == w)) {term : Term}
    {w : String} (h : fixed? i term.condition = some w) :
    holds t r term = ((key == w) != term.negated) := by
  rw [holds, hkey _ _ h]

theorem asked?_eq_some_iff {term : Term} {v : String} :
    asked? i term = some v ↔ term.negated = false ∧ fixed? i term.condition = some v := by
  cases hnegated : term.negated <;> simp [asked?, hnegated]

theorem key_eq_of_holds {key : String}
    (hkey : ∀ c w, fixed? i c = some w → conditionHolds? t r c = .ok (key == w)) {term : Term}
    {v : String} (hasked : asked? i term = some v) (hholds : holds t r term = true) : key = v := by
  obtain ⟨hplain, hfixed⟩ := asked?_eq_some_iff.mp hasked
  rw [holds_of_fixed hkey hfixed, hplain] at hholds
  simpa using hholds

theorem keepLast_sublist (terms : List Term) : (keepLast i terms).Sublist terms := by
  induction terms with
  | nil => exact .slnil
  | cons term terms ih =>
    rw [keepLast]
    split
    · exact ih.cons_cons term
    · exact ih.cons term

theorem mem_keepLast_of_unfixed {terms : List Term} {term : Term} (h : term ∈ terms)
    (hfixed : fixed? i term.condition = none) : term ∈ keepLast i terms := by
  induction terms with
  | nil => cases h
  | cons other terms ih =>
    rw [keepLast]
    rcases List.mem_cons.mp h with rfl | hmem
    · simp [hfixed]
    · split
      · exact List.mem_cons_of_mem _ (ih hmem)
      · exact ih hmem

theorem exists_mem_keepLast {terms : List Term} {v : String}
    (h : (terms.filterMap (asked? i)).getLast? = some v) :
    ∃ term ∈ keepLast i terms, asked? i term = some v := by
  induction terms with
  | nil => cases h
  | cons term terms ih =>
    rw [keepLast]
    by_cases hlater : ∃ other ∈ terms, (asked? i other).isSome
    · have hne : terms.filterMap (asked? i) ≠ [] := by
        obtain ⟨other, hother, hasked⟩ := hlater
        obtain ⟨w, hw⟩ := Option.isSome_iff_exists.mp hasked
        exact List.ne_nil_of_mem (List.mem_filterMap.mpr ⟨other, hother, hw⟩)
      obtain ⟨w, hw⟩ : ∃ w, (terms.filterMap (asked? i)).getLast? = some w :=
        ⟨_, List.getLast?_eq_some_getLast hne⟩
      have hlast : w = v := by
        rw [List.filterMap_cons] at h
        split at h
        · exact Option.some.inj (hw ▸ h)
        · rw [List.getLast?_cons, hw] at h
          exact Option.some.inj h
      obtain ⟨other, hother, hasked⟩ := ih (hlast ▸ hw)
      refine ⟨other, ?_, hasked⟩
      split
      · exact List.mem_cons_of_mem _ hother
      · exact hother
    · have hnone : ∀ other ∈ terms, asked? i other = none := by
        intro other hother
        rw [← Option.not_isSome_iff_eq_none]
        exact fun hsome => hlater ⟨other, hother, hsome⟩
      rw [List.filterMap_cons, List.filterMap_eq_nil_iff.mpr hnone] at h
      cases hterm : asked? i term with
      | none => simp [hterm] at h
      | some w =>
        have hwv : w = v := by simpa [hterm] using h
        refine ⟨term, ?_, hterm.trans (congrArg some hwv)⟩
        have hlast : (terms.all fun other => (asked? i other).isNone) = true := by
          simpa using hnone
        simp [hlast]

theorem settle_sublist {terms left : List Term} (h : settle i terms = some left) :
    left.Sublist terms := by
  unfold settle at h
  split at h
  · exact Option.some.inj h ▸ List.Sublist.refl _
  · split at h
    · exact Option.some.inj h ▸ keepLast_sublist terms
    · cases h

theorem settle_all {terms left : List Term} (h : settle i terms = some left) :
    left.all (holds t r) = terms.all (holds t r) := by
  have hsub := settle_sublist h
  rw [Bool.eq_iff_iff, List.all_eq_true, List.all_eq_true]
  refine ⟨fun hleft => ?_, fun hall term hterm => hall term (hsub.subset hterm)⟩
  unfold settle at h
  split at h
  · exact Option.some.inj h ▸ hleft
  · rename_i v hlast
    split at h
    · rename_i hadmits
      obtain rfl := Option.some.inj h
      obtain ⟨key, hkey⟩ := exists_key t r i
      -- the term that is kept makes the row have the value by which the others were decided
      obtain ⟨giver, hgiver, hasked⟩ := exists_mem_keepLast hlast
      have hvalue : key = v := key_eq_of_holds hkey hasked (hleft giver hgiver)
      intro term hterm
      cases hterm' : fixed? i term.condition with
      | none => exact hleft term (mem_keepLast_of_unfixed hterm hterm')
      | some w =>
        have hadmitted := List.all_eq_true.mp hadmits term hterm
        rw [holds_of_fixed hkey hterm', hvalue]
        simpa only [admits, hterm'] using hadmitted
    · cases h

theorem exists_false_of_settle {terms : List Term} (h : settle i terms = none) :
    ∃ term ∈ terms, (fixed? i term.condition).isSome = true ∧ holds t r term = false := by
  unfold settle at h
  split at h
  · cases h
  · rename_i v hlast
    split at h
    · cases h
    · rename_i hadmits
      obtain ⟨key, hkey⟩ := exists_key t r i
      obtain ⟨giver, hgiver, hasked⟩ := exists_mem_keepLast hlast
      have hmem := (keepLast_sublist terms).subset hgiver
      cases hholds : holds t r giver with
      | false =>
        have hfixed := (asked?_eq_some_iff.mp hasked).2
        exact ⟨giver, hmem, by rw [hfixed, Option.isSome_some], hholds⟩
      | true =>
        have hvalue : key = v := key_eq_of_holds hkey hasked hholds
        obtain ⟨term, hterm, hrefused⟩ : ∃ term ∈ terms, admits i v term = false := by
          simpa using hadmits
        unfold admits at hrefused
        split at hrefused
        · rename_i w hw
          exact ⟨term, hterm, by rw [hw, Option.isSome_some],
            by rw [holds_of_fixed hkey hw, hvalue, hrefused]⟩
        · cases hrefused

end Settling

section Plans

variable {listing : Bool} {terms planned : List Term}

theorem rank_cases (scanned : Option Index) (term : Term) :
    rank scanned term = 0 ∨ rank scanned term = 1 ∨ rank scanned term = 2 := by
  unfold rank
  split
  · decide
  · split <;> decide

theorem mem_arranged {scanned : Option Index} {term : Term} :
    term ∈ arranged scanned terms ↔ term ∈ terms := by
  simp only [arranged, List.mem_append, List.mem_filter, beq_iff_eq]
  constructor
  · rintro ((⟨h, -⟩ | ⟨h, -⟩) | ⟨h, -⟩) <;> exact h
  · intro h
    rcases rank_cases scanned term with hr | hr | hr
    · exact Or.inl (Or.inl ⟨h, hr⟩)
    · exact Or.inl (Or.inr ⟨h, hr⟩)
    · exact Or.inr ⟨h, hr⟩

theorem plan_eq_some_iff : plan listing terms = some planned ↔ ∃ middle left,
    settle .read terms = some middle ∧ settle .messageId middle = some left ∧
      arranged (scanned? listing terms) left = planned := by
  simp only [plan, Option.map_eq_some_iff, Option.bind_eq_some_iff]
  constructor
  · rintro ⟨left, ⟨middle, hmiddle, hleft⟩, heq⟩
    exact ⟨middle, left, hmiddle, hleft, heq⟩
  · rintro ⟨middle, left, hmiddle, hleft, heq⟩
    exact ⟨left, ⟨middle, hmiddle, hleft⟩, heq⟩

theorem mem_of_plan (h : plan listing terms = some planned) {term : Term} (hterm : term ∈ planned) :
    term ∈ terms := by
  obtain ⟨middle, left, hmiddle, hleft, rfl⟩ := plan_eq_some_iff.mp h
  exact (settle_sublist hmiddle).subset ((settle_sublist hleft).subset (mem_arranged.mp hterm))

theorem plan_all (h : plan listing terms = some planned) (t : Tables) (r : Row) :
    planned.all (holds t r) = terms.all (holds t r) := by
  obtain ⟨middle, left, hmiddle, hleft, rfl⟩ := plan_eq_some_iff.mp h
  rw [← settle_all hmiddle, ← settle_all hleft, Bool.eq_iff_iff, List.all_eq_true,
    List.all_eq_true]
  exact forall_congr' fun term => imp_congr_left mem_arranged

theorem exists_false_of_plan (h : plan listing terms = none) (t : Tables) (r : Row) :
    ∃ term ∈ terms, (∃ i, (fixed? i term.condition).isSome = true) ∧ holds t r term = false := by
  simp only [plan, Option.map_eq_none_iff, Option.bind_eq_none_iff] at h
  cases hmiddle : settle .read terms with
  | none =>
    obtain ⟨term, hterm, hfixed, hfalse⟩ := exists_false_of_settle (t := t) (r := r) hmiddle
    exact ⟨term, hterm, ⟨.read, hfixed⟩, hfalse⟩
  | some middle =>
    obtain ⟨term, hterm, hfixed, hfalse⟩ :=
      exists_false_of_settle (t := t) (r := r) (h middle hmiddle)
    exact ⟨term, (settle_sublist hmiddle).subset hterm, ⟨.messageId, hfixed⟩, hfalse⟩

theorem all_eq_false_of_plan (h : plan listing terms = none) (t : Tables) (r : Row) :
    terms.all (holds t r) = false := by
  obtain ⟨term, hterm, -, hfalse⟩ := exists_false_of_plan h t r
  exact List.all_eq_false.mpr ⟨term, hterm, by rw [hfalse]; decide⟩

theorem settle_singleton (i : Index) (term : Term) : settle i [term] = some [term] := by
  cases hasked : asked? i term with
  | none => simp [settle, hasked]
  | some v =>
    obtain ⟨hplain, hfixed⟩ := asked?_eq_some_iff.mp hasked
    simp [settle, admits, keepLast, hplain, hfixed, hasked]

theorem arranged_singleton (scanned : Option Index) (term : Term) :
    arranged scanned [term] = [term] := by
  rcases rank_cases scanned term with hr | hr | hr <;> simp [arranged, hr]

theorem plan_singleton (listing : Bool) (term : Term) : plan listing [term] = some [term] :=
  plan_eq_some_iff.mpr ⟨[term], [term], settle_singleton _ _, settle_singleton _ _,
    arranged_singleton _ _⟩

end Plans

section Rows

variable {t : Tables} {r : Row}

theorem allHold?_cons_of_ok {term : Term} {c : Bool} (h : conditionHolds? t r term.condition = .ok c)
    (rest : List Term) :
    allHold? t r (term :: rest) =
      if holds t r term then allHold? t r rest else .ok false := by
  rw [allHold?, holds, h]
  rfl

theorem all_of_allHold? {terms : List Term} {b : Bool} (h : allHold? t r terms = .ok b) :
    b = terms.all (holds t r) := by
  induction terms with
  | nil => exact (Except.ok.inj h).symm
  | cons term terms ih =>
    cases hterm : conditionHolds? t r term.condition with
    | error why =>
      rw [allHold?, hterm] at h
      cases h
    | ok c =>
      rw [allHold?_cons_of_ok hterm] at h
      rw [List.all_cons]
      cases hholds : holds t r term with
      | true =>
        rw [hholds] at h
        exact ih h
      | false =>
        rw [hholds] at h
        exact (Except.ok.inj h).symm

theorem allHold?_append_of_ok {first : List Term}
    (h : ∀ term ∈ first, ∃ c, conditionHolds? t r term.condition = .ok c) (rest : List Term) :
    allHold? t r (first ++ rest) =
      if first.all (holds t r) then allHold? t r rest else .ok false := by
  induction first with
  | nil => rfl
  | cons term first ih =>
    obtain ⟨⟨c, hc⟩, hfirst⟩ := List.forall_mem_cons.mp h
    rw [List.cons_append, allHold?_cons_of_ok hc, ih hfirst, List.all_cons]
    cases holds t r term <;> rfl

theorem allHold?_drop {p : Term → Bool} {first : List Term}
    (h : ∀ term ∈ first, p term = true →
      (∃ c, conditionHolds? t r term.condition = .ok c) ∧ holds t r term = true)
    (rest : List Term) :
    allHold? t r (first.filter (fun term => !p term) ++ rest) = allHold? t r (first ++ rest) := by
  induction first with
  | nil => rfl
  | cons term first ih =>
    obtain ⟨hterm, hfirst⟩ := List.forall_mem_cons.mp h
    cases hp : p term with
    | true =>
      obtain ⟨⟨c, hc⟩, hholds⟩ := hterm hp
      rw [List.filter_cons_of_neg (by simp [hp]), List.cons_append, allHold?_cons_of_ok hc, hholds,
        if_pos rfl, ih hfirst]
    | false =>
      rw [List.filter_cons_of_pos (by simp [hp]), List.cons_append, List.cons_append, allHold?,
        allHold?, ih hfirst]

theorem allHold?_hoist {p : Term → Bool} {first rest : List Term} {b : Bool}
    (hp : ∀ term ∈ first, p term = true → ∃ c, conditionHolds? t r term.condition = .ok c)
    (h : allHold? t r (first ++ rest) = .ok b) :
    allHold? t r (first.filter p ++ first.filter (fun term => !p term) ++ rest) = .ok b := by
  have hdecided : ∀ term ∈ first.filter p,
      ∃ c, conditionHolds? t r term.condition = .ok c := by
    intro term hterm
    obtain ⟨hmem, hkind⟩ := List.mem_filter.mp hterm
    exact hp term hmem hkind
  rw [List.append_assoc, allHold?_append_of_ok hdecided]
  cases hall : (first.filter p).all (holds t r) with
  | true =>
    rw [if_pos rfl, ← h]
    refine allHold?_drop (fun term hmem hkind => ⟨hp term hmem hkind, ?_⟩) rest
    exact List.all_eq_true.mp hall term (List.mem_filter.mpr ⟨hmem, hkind⟩)
  | false =>
    -- one of them fails, so that not all of the terms hold in the order before either
    obtain ⟨term, hterm, hfalse⟩ := List.all_eq_false.mp hall
    have hnot : (first ++ rest).all (holds t r) = false :=
      List.all_eq_false.mpr ⟨term, List.mem_append_left _ (List.mem_filter.mp hterm).1, hfalse⟩
    rw [if_neg Bool.false_ne_true, all_of_allHold? h, hnot]

end Rows

section Listing

variable {listing : Bool} {terms : List Term}

theorem scanned?_listing (terms : List Term) :
    scanned? true terms = scanned? false terms ∨
      (scanned? false terms = none ∧ scanned? true terms = some .created) := by
  unfold scanned?
  dsimp only
  split
  · exact Or.inl rfl
  split
  · exact Or.inl rfl
  split
  · exact Or.inl rfl
  rw [Bool.true_or, Bool.false_or, if_pos rfl]
  split
  · exact Or.inl rfl
  · exact Or.inr ⟨rfl, rfl⟩

theorem decided_of_created {term : Term} (h : indexOf? term.condition = some .created)
    (t : Tables) (r : Row) : ∃ c, conditionHolds? t r term.condition = .ok c := by
  obtain ⟨c, negated⟩ := term
  cases c with
  | text value => cases h
  | field f value => cases f <;> cases h
  | flag f => cases f <;> cases h
  | date side d => cases side <;> exact ⟨_, rfl⟩

theorem allHold?_listing {planned listed : List Term} (h : plan false terms = some planned)
    (hlisted : plan true terms = some listed) {t : Tables} {r : Row} {b : Bool}
    (hrow : allHold? t r planned = .ok b) : allHold? t r listed = .ok b := by
  obtain ⟨middle, left, hmiddle, hleft, rfl⟩ := plan_eq_some_iff.mp h
  obtain ⟨middle', left', hmiddle', hleft', rfl⟩ := plan_eq_some_iff.mp hlisted
  obtain rfl : middle = middle' := Option.some.inj (hmiddle ▸ hmiddle')
  obtain rfl : left = left' := Option.some.inj (hleft ▸ hleft')
  rcases scanned?_listing terms with hsame | ⟨hnone, hcreated⟩
  · exact hsame ▸ hrow
  · rw [hnone] at hrow
    rw [hcreated]
    -- the two orders differ in the dates, which come first where rows are read by their time
    let isDate (term : Term) : Bool := indexOf? term.condition == some .created
    have hranks (term : Term) :
        (rank none term == 0) = false ∧
        (rank (some .created) term == 0) = (isDate term && rank none term == 1) ∧
        (rank (some .created) term == 1) = (!isDate term && rank none term == 1) ∧
        (rank (some .created) term == 2) = (rank none term == 2) := by
      obtain ⟨c, negated⟩ := term
      cases c with
      | text value => exact ⟨rfl, rfl, rfl, rfl⟩
      | field f value => cases f <;> exact ⟨rfl, rfl, rfl, rfl⟩
      | flag f => cases f <;> exact ⟨rfl, rfl, rfl, rfl⟩
      | date side d => exact ⟨rfl, rfl, rfl, rfl⟩
    have hbefore : arranged none left = (left.filter fun term => rank none term == 1) ++
        left.filter fun term => rank none term == 2 := by
      simp [arranged, hranks]
    have hafter : arranged (some .created) left =
        ((left.filter fun term => rank none term == 1).filter isDate) ++
          ((left.filter fun term => rank none term == 1).filter fun term => !isDate term) ++
            left.filter fun term => rank none term == 2 := by
      simp only [arranged, hranks, List.filter_filter]
    rw [hbefore] at hrow
    rw [hafter]
    refine allHold?_hoist (fun term _ hdate => ?_) hrow
    exact decided_of_created (by simpa [isDate] using hdate) t r

theorem plan_eq_none (h : plan false terms = none) (listing : Bool) : plan listing terms = none := by
  simpa [plan] using h

theorem exists_plan {planned : List Term} (h : plan false terms = some planned) (listing : Bool) :
    ∃ listed, plan listing terms = some listed ∧ ∀ t r b,
      allHold? t r planned = .ok b → allHold? t r listed = .ok b := by
  cases listing with
  | false => exact ⟨planned, h, fun _ _ _ => id⟩
  | true =>
    obtain ⟨middle, left, hmiddle, hleft, -⟩ := plan_eq_some_iff.mp h
    have hlisted : plan true terms = some (arranged (scanned? true terms) left) :=
      plan_eq_some_iff.mpr ⟨middle, left, hmiddle, hleft, rfl⟩
    exact ⟨_, hlisted, fun _ _ _ => allHold?_listing h hlisted⟩

end Listing

section Found

variable {p : Row → Except Unsearchable Bool} {q : Row → Bool} {rows found : List Row}

def upTo {α : Type} : Option Nat → List α → List α
  | none, l => l
  | some n, l => l.take n

theorem rowsWhere_cons {r : Row} {b : Bool} (hr : p r = .ok b) (most : Option Nat)
    (hmost : most ≠ some 0) : rowsWhere p most (r :: rows) =
      if b then (rowsWhere p (most.map (· - 1)) rows).map (r :: ·) else rowsWhere p most rows := by
  have hstep : rowsWhere p most (r :: rows) = (do
      if ← p r then return r :: (← rowsWhere p (most.map (· - 1)) rows)
      else rowsWhere p most rows) := by
    rw [rowsWhere]
    exact hmost
  rw [hstep, hr]
  cases b with
  | true => cases hothers : rowsWhere p (most.map (· - 1)) rows <;> rfl
  | false => rfl

theorem rowsWhere_none_cons {r : Row} {b : Bool} (hr : p r = .ok b) :
    rowsWhere p none (r :: rows) =
      if b then (rowsWhere p none rows).map (r :: ·) else rowsWhere p none rows :=
  rowsWhere_cons hr none (Option.some_ne_none 0).symm

theorem rowsWhere_none_cons_of_error {r : Row} {why : Unsearchable} (hr : p r = .error why) :
    rowsWhere p none (r :: rows) = .error why := by
  rw [rowsWhere, hr]
  · rfl
  · exact (Option.some_ne_none 0).symm

theorem rowsWhere_eq (h : ∀ r ∈ rows, p r = .ok (q r)) (most : Option Nat) :
    rowsWhere p most rows = .ok (upTo most (rows.filter q)) := by
  induction rows generalizing most with
  | nil =>
    cases most with
    | none => rfl
    | some n => cases n <;> rfl
  | cons r rows ih =>
    obtain ⟨hr, hrows⟩ := List.forall_mem_cons.mp h
    by_cases hmost : most = some 0
    · subst hmost
      rfl
    · rw [rowsWhere_cons hr most hmost, ih hrows, ih hrows]
      cases hq : q r with
      | false => rw [List.filter_cons_of_neg (by simp [hq])]; rfl
      | true =>
        rw [List.filter_cons_of_pos hq]
        cases most with
        | none => rfl
        | some n =>
          cases n with
          | zero => exact absurd rfl hmost
          | succ n => rfl

theorem decided_of_rowsWhere (h : rowsWhere p none rows = .ok found) :
    ∀ r ∈ rows, ∃ b, p r = .ok b := by
  induction rows generalizing found with
  | nil => nofun
  | cons r rows ih =>
    cases hr : p r with
    | error why =>
      rw [rowsWhere_none_cons_of_error hr] at h
      cases h
    | ok b =>
      rw [rowsWhere_none_cons hr] at h
      refine List.forall_mem_cons.mpr ⟨⟨b, hr⟩, ?_⟩
      cases b with
      | false => exact ih h
      | true =>
        rw [if_pos rfl] at h
        cases hothers : rowsWhere p none rows with
        | error why =>
          rw [hothers] at h
          cases h
        | ok others => exact ih hothers

theorem rowsWhere_error {why : Unsearchable} (hall : ∀ r ∈ rows, p r = .error why ∨ ∃ b, p r = .ok b)
    (hsome : ∃ r ∈ rows, p r = .error why) : rowsWhere p none rows = .error why := by
  induction rows with
  | nil => simp at hsome
  | cons r rows ih =>
    obtain ⟨hfirst, hrest⟩ := List.forall_mem_cons.mp hall
    rcases hfirst with hr | ⟨b, hr⟩
    · exact rowsWhere_none_cons_of_error hr
    · have hlater : ∃ r ∈ rows, p r = .error why := by
        obtain ⟨r', hmem, hr'⟩ := hsome
        rcases List.mem_cons.mp hmem with rfl | hmem
        · rw [hr] at hr'
          cases hr'
        · exact ⟨r', hmem, hr'⟩
      rw [rowsWhere_none_cons hr, ih hrest hlater]
      cases b <;> rfl

end Found

section Statements

variable {t : Tables} {terms : List Term} {rows : List Row}

theorem rows?_cases (h : rows? t false none terms = .ok rows) :
    totalDepth terms ≤ depthLimit ∧
      (plan false terms = none ∨ ∃ planned, plan false terms = some planned ∧
        ∀ r ∈ t.newestFirst, allHold? t r planned = .ok (terms.all (holds t r))) := by
  unfold rows? at h
  split at h
  · cases h
  · rename_i hdepth
    refine ⟨Nat.not_lt.mp hdepth, ?_⟩
    cases hplan : plan false terms with
    | none => exact Or.inl rfl
    | some planned =>
      refine Or.inr ⟨planned, rfl, fun r hr => ?_⟩
      rw [hplan, ite_self] at h
      obtain ⟨b, hb⟩ := decided_of_rowsWhere h r hr
      rw [hb, all_of_allHold? hb, plan_all hplan]

theorem filter_of_plan_eq_none (h : plan false terms = none) (t : Tables) (rows : List Row) :
    (rows.filter fun r => terms.all (holds t r)) = [] :=
  List.filter_eq_nil_iff.mpr fun r _ => by simp [all_eq_false_of_plan h t r]

theorem rows?_of_allHold? (hdepth : totalDepth terms ≤ depthLimit)
    (h : ∀ planned, plan false terms = some planned →
      ∀ r ∈ t.newestFirst, ∃ b, allHold? t r planned = .ok b) :
    rows? t false none terms = .ok (t.newestFirst.filter fun r => terms.all (holds t r)) := by
  rw [rows?, if_neg (Nat.not_lt.mpr hdepth)]
  cases hplan : plan false terms with
  | none => rw [filter_of_plan_eq_none hplan]
  | some planned =>
    rw [ite_self]
    refine rowsWhere_eq (fun r hr => ?_) none
    obtain ⟨b, hb⟩ := h planned hplan r hr
    rw [hb, all_of_allHold? hb, plan_all hplan]

theorem rows?_of_decided (hdepth : totalDepth terms ≤ depthLimit)
    (h : ∀ r ∈ t.newestFirst, ∀ term ∈ terms, ∃ b, conditionHolds? t r term.condition = .ok b) :
    rows? t false none terms = .ok (t.newestFirst.filter fun r => terms.all (holds t r)) := by
  refine rows?_of_allHold? hdepth fun planned hplan r hr => ?_
  have hplanned : ∀ term ∈ planned, ∃ b, conditionHolds? t r term.condition = .ok b :=
    fun term hterm => h r hr term (mem_of_plan hplan hterm)
  have hall := allHold?_append_of_ok hplanned []
  rw [List.append_nil] at hall
  refine ⟨planned.all (holds t r), hall.trans ?_⟩
  cases planned.all (holds t r) <;> rfl

theorem rows?_of_counted (h : rows? t false none terms = .ok rows) (listing : Bool)
    (most : Option Nat) : ∃ most', (most' = most ∨ most' = none) ∧
      rows? t listing most terms =
        .ok (upTo most' (t.newestFirst.filter fun r => terms.all (holds t r))) := by
  obtain ⟨hdepth, hcases⟩ := rows?_cases h
  refine ⟨if scanned? listing terms == some .created then most else none,
    by split <;> simp, ?_⟩
  rw [rows?, if_neg (Nat.not_lt.mpr hdepth)]
  rcases hcases with hnone | ⟨planned, hplan, hrows⟩
  · rw [plan_eq_none hnone, filter_of_plan_eq_none hnone]
    generalize (if scanned? listing terms == some .created then most else none) = most'
    cases most' <;> simp [upTo]
  · obtain ⟨listed, hlisted, hsame⟩ := exists_plan hplan listing
    rw [hlisted]
    exact rowsWhere_eq (fun r hr => hsame t r _ (hrows r hr)) _

end Statements

end Search

namespace Tables

open Query

variable {t : Tables} {query : String}

theorem counted_of_matching? {rows : List Row} (h : t.matching? query = .ok rows) :
    Search.rows? t false none (parse query) = .ok rows := by
  rw [matching?] at h
  cases hrows : Search.rows? t false none (parse query) with
  | error why =>
    rw [hrows] at h
    cases h
  | ok rows' =>
    rw [hrows] at h
    exact congrArg Except.ok (Except.ok.inj h)

theorem eq_of_matching? {rows : List Row} (h : t.matching? query = .ok rows) :
    rows = t.newestFirst.filter fun r => (parse query).all (Search.holds t r) := by
  have hcounted := counted_of_matching? h
  obtain ⟨most, hmost, heq⟩ := Search.rows?_of_counted hcounted false none
  obtain rfl : most = none := by simpa using hmost
  exact Except.ok.inj (hcounted.symm.trans heq)

theorem matching?_sublist {rows : List Row} (h : t.matching? query = .ok rows) :
    rows.Sublist t.newestFirst :=
  eq_of_matching? h ▸ List.filter_sublist

theorem page_upTo {α : Type} (offset limit : UInt64) (l : List α) :
    page offset limit (Search.upTo (pageEnd offset limit) l) = page offset limit l := by
  by_cases hlimit : limit.toNat < signedBound
  · by_cases hoffset : offset.toNat < signedBound
    · simp only [page, pageEnd, hlimit, hoffset, if_true, Search.upTo, List.drop_take,
        List.take_take, Nat.add_sub_cancel_left, Nat.min_self]
    · simp only [page, pageEnd, hlimit, hoffset, if_true, if_false, Search.upTo, Nat.zero_add,
        List.take_take, Nat.min_self]
  · rw [pageEnd, if_neg hlimit, Search.upTo]

theorem search?_eq (t : Tables) (query : String) (offset limit : UInt64) :
    t.search? query offset limit = (t.matching? query).map fun rows =>
      { messages := t.summaries (page offset limit rows), total := rows.length.toUInt64 } := by
  rw [search?]
  cases hrows : t.matching? query with
  | error why => rfl
  | ok rows =>
    have hpage : (t.listed? query offset limit).map (page offset limit) =
        .ok (page offset limit rows) := by
      obtain ⟨most, hmost, hlisted⟩ := Search.rows?_of_counted (counted_of_matching? hrows) true
        (pageEnd offset limit)
      rw [listed?]
      split
      · rename_i hzero
        obtain rfl : limit = 0 := by simpa using hzero
        simp [Except.map, page, signedBound]
      · rw [hlisted, ← eq_of_matching? hrows]
        rcases hmost with rfl | rfl
        · exact congrArg Except.ok (page_upTo offset limit rows)
        · rfl
    cases hlisted : t.listed? query offset limit with
    | error why =>
      rw [hlisted] at hpage
      cases hpage
    | ok listed =>
      rw [hlisted] at hpage
      have hsame : page offset limit listed = page offset limit rows := Except.ok.inj hpage
      simp only [bind, Except.bind, pure, Except.pure, Except.map, hsame]

end Tables

end Letterbox
