import Letterbox.Proofs.Mailbox.Finding
import Letterbox.Proofs.Mailbox.Retrieval
import Letterbox.Proofs.Text.Lowering

namespace Letterbox

open Query Text

theorem Envelope.searchText_of_assembled {e : Envelope} {before v after : List Char}
    (h : e.assembled = before ++ v ++ after) :
    e.searchText.toList = lowerWithin [] (v ++ after) before ++
      lowerWithin before.reverse after v ++ lowerAfter (v.reverse ++ before.reverse) after := by
  rw [searchText, String.toList_ofList, h, lower_append_append]

namespace Search

variable {t : Tables} {v : String}

theorem tells_piece {r : Row} {first last : List Char}
    (hshort : Wildcard.isTooLong (Wildcard.containing (lower v.toList)) = false)
    (hwhole : Wildcard.IsWhole (first ++ lower v.toList))
    (hpiece : r.searchText.toList = first ++ lower v.toList ++ last) :
    Tells (conditionHolds? t r (.text v)) True := by
  have hfinds : Wildcard.matches? (Wildcard.containing (lower v.toList)) r.searchText.toList =
      true := by
    rw [hpiece]
    exact Wildcard.matches?_containing_append hwhole last
  refine ⟨true, ?_, by simp⟩
  rw [conditionHolds?, anyContains?_of_short hshort, finds, List.any_cons, hfinds, Bool.true_or]

theorem rows?_of_tooLong (hlong : Wildcard.isTooLong (Wildcard.containing (lower v.toList)) = true)
    (negated : Bool) (ht : t.messages ≠ []) :
    rows? t false none [⟨.text v, negated⟩] = .error .patternTooLong := by
  have hall (r : Row) : allHold? t r [⟨.text v, negated⟩] = .error .patternTooLong := by
    simp only [allHold?, conditionHolds?, anyContains?, contains?, hlong, if_true]
    rfl
  obtain ⟨r, hr⟩ := List.exists_mem_of_ne_nil _ ht
  rw [rows?, if_neg (Nat.not_lt.mpr (totalDepth_singleton _)), plan_singleton,
    ite_self]
  exact rowsWhere_error (fun r _ => Or.inl (hall r)) ⟨r, Tables.mem_newestFirst.mpr hr, hall r⟩

end Search

namespace Mailbox

variable {m : Mailbox}

structure FindsBy (m : Mailbox) (now : Instant) (id v : String) : Prop where
  found : Wildcard.isTooLong (Wildcard.containing (lower v.toList)) = false →
    ∀ query negated, parse query = [⟨.text v, negated⟩] →
      ∀ limit : UInt64, Tables.signedBound ≤ limit.toNat → ∃ results,
        (m.search now query 0 limit).1 = .ok results ∧
          (id ∈ results.messages.map Summary.id ↔ negated = false)
  refused : Wildcard.isTooLong (Wildcard.containing (lower v.toList)) = true →
    ∀ query negated, parse query = [⟨.text v, negated⟩] → ∀ offset limit : UInt64,
      (m.search now query offset limit).1 = .error (.unsearchable .patternTooLong)

theorem findsBy_piece (hopen : m.closed = false) (hsound : m.tables.Sound) (now : Instant)
    {r : Row} (hr : r ∈ m.tables.messages) {v : String} {first last : List Char}
    (hwhole : Wildcard.IsWhole (first ++ lower v.toList))
    (hpiece : r.searchText.toList = first ++ lower v.toList ++ last) :
    m.FindsBy now r.id v := by
  constructor
  case found =>
    intro hshort query negated hquery limit hlimit
    have hlimits : InLimits (parse query) := by
      rw [hquery]
      exact Search.inLimits_singleton (by rintro w ⟨⟩; exact hshort)
    refine ⟨_, search_eq_pageOf hopen now hsound hlimits 0 limit, ?_⟩
    rw [Tables.messages_pageOf _ _ hlimit, hsound.ids_keptBy, hsound.id_mem_keptBy_iff hr, hquery,
      Tables.mem_keptBy_iff hr, List.forall_mem_singleton,
      (Search.tells_piece hshort hwhole hpiece).holds_iff, iff_true]
  case refused =>
    intro hlong query negated hquery offset limit
    have hrows := Search.rows?_of_tooLong hlong negated (List.ne_nil_of_mem hr)
    rw [search, look_of_open hopen, Tables.search?_eq, Tables.matching?, hquery, hrows]
    rfl

theorem search_run_piece {t : Tables} (ht : t.Reached) {config : Config} {webhook : Bool}
    {start : Instant} {m : Mailbox} (hopen : open? config t webhook start = .ok m)
    (requests : List Request) (now : Instant) :
    (∀ (e : Envelope) (before v after : List Char), e.assembled = before ++ v ++ after →
      (∃ first last,
        e.searchText.toList = first ++ lowerWithin before.reverse after v ++ last) ∧
      (lowerWithin before.reverse after v = lower v ↔ KeepsSigmas before.reverse after v)) ∧
    ∀ id ∈ (m.run requests).tables.messages.map Row.id, ∃ raw e,
      ((m.run requests).raw now id).1 = .ok raw ∧ Envelope.parse raw = .ok e ∧
      ∀ (before : List Char) (v : String) (after : List Char),
        e.assembled = before ++ v.toList ++ after → Wildcard.IsWhole (before ++ v.toList) →
        KeepsSigmas before.reverse after v.toList → (m.run requests).FindsBy now id v := by
  constructor
  · intro e before v after h
    exact ⟨⟨_, _, Envelope.searchText_of_assembled h⟩, lowerWithin_eq_lower_iff⟩
  · intro id hid
    obtain ⟨r, hr, rfl⟩ := List.mem_map.mp hid
    have hclosed := closed_run hopen requests
    have hsound := (Tables.Reached.session ht hopen requests).sound
    obtain ⟨raw, e, created, hraw, hparse, -, hrow⟩ :=
      contents_of_row? hsound.shelved (hsound.shelved.row?_of_mem hr)
    have htext : r.searchText = e.searchText := by rw [hrow]; rfl
    refine ⟨raw, e, by rw [Mailbox.raw, look_of_open hclosed, hraw], hparse, ?_⟩
    intro before v after hassembled hwhole hkeeps
    obtain ⟨hbefore, hv⟩ := Wildcard.isWhole_append.mp hwhole
    have hpiece := Envelope.searchText_of_assembled hassembled
    rw [lowerWithin_eq_lower_iff.mpr hkeeps, ← htext] at hpiece
    refine findsBy_piece hclosed hsound now hr ?_ hpiece
    exact Wildcard.isWhole_append.mpr ⟨isWhole_lowerWithin hbefore, isWhole_lower hv⟩

theorem search_run_piece_words :
    let m := ({ config := {}, rules := ⟨[]⟩ } : Mailbox).run
      [⟨⟨1, 0⟩, .store "a" (encode "Subject: ΟΔΟΣ Α\n\n".toList), by decide⟩]
    (∃ results, (m.search ⟨2, 0⟩ "ΟΔΟΣ" 0 (0 - 1)).1 = .ok results ∧
      "a" ∈ results.messages.map Summary.id) ∧
    ∃ results, (m.search ⟨2, 0⟩ "-\"Α ΟΔ\"" 0 (0 - 1)).1 = .ok results ∧
      "a" ∉ results.messages.map Summary.id := by
  intro m
  have hopen : open? {} {} false ⟨0, 0⟩ = .ok { config := {}, rules := ⟨[]⟩ } := rfl
  have hstored : (m.raw ⟨2, 0⟩ "a").1 = .ok (encode "Subject: ΟΔΟΣ Α\n\n".toList) := by
    decide +kernel
  have htext : (Envelope.parse (encode "Subject: ΟΔΟΣ Α\n\n".toList)).map Envelope.assembled =
      .ok "ΟΔΟΣ Α ΟΔΟΣ Α".toList := by
    decide +kernel
  obtain ⟨raw, e, hraw, hparse, hpieces⟩ := (search_run_piece .empty hopen
    [⟨⟨1, 0⟩, .store "a" (encode "Subject: ΟΔΟΣ Α\n\n".toList), by decide⟩] ⟨2, 0⟩).2 "a"
    (by decide +kernel)
  obtain rfl : encode "Subject: ΟΔΟΣ Α\n\n".toList = raw :=
    Except.ok.inj (hstored.symm.trans hraw)
  have hassembled : e.assembled = "ΟΔΟΣ Α ΟΔΟΣ Α".toList := by
    rw [hparse] at htext
    exact Except.ok.inj htext
  have hword : m.FindsBy ⟨2, 0⟩ "a" "ΟΔΟΣ" := by
    refine hpieces [] "ΟΔΟΣ" " Α ΟΔΟΣ Α".toList (hassembled.trans (by decide +kernel))
      (by decide +kernel) ?_
    exact keepsSigmas_of_not_meetsCased (by decide +kernel) (by decide +kernel) _
  have hplain : m.FindsBy ⟨2, 0⟩ "a" "Α ΟΔ" := by
    refine hpieces "ΟΔΟΣ ".toList "Α ΟΔ" "ΟΣ Α".toList (hassembled.trans (by decide +kernel))
      (by decide +kernel) ?_
    exact keepsSigmas_of_not_mem (by decide +kernel) _ _
  obtain ⟨one, hone, hin⟩ := hword.found (by decide +kernel) "ΟΔΟΣ" false (by decide +kernel)
    (0 - 1) (by decide)
  obtain ⟨other, hother, hout⟩ := hplain.found (by decide +kernel) "-\"Α ΟΔ\"" true
    (by decide +kernel) (0 - 1) (by decide)
  exact ⟨⟨one, hone, hin.mpr rfl⟩, other, hother, fun h => Bool.false_ne_true (hout.mp h).symm⟩

theorem search_run_piece_sigma :
    let m := ({ config := {}, rules := ⟨[]⟩ } : Mailbox).run
      [⟨⟨1, 0⟩, .store "a" (encode "Subject: ΑΣΑ\n\n".toList), by decide⟩]
    let found := fun query => (m.search ⟨2, 0⟩ query 0 1).1.map fun r => r.messages.map Summary.id
    (Envelope.parse (encode "Subject: ΑΣΑ\n\n".toList)).map (fun e =>
        (e.assembled, decide (lower "ΑΣ".toList <:+: e.searchText.toList))) =
      .ok ("ΑΣ".toList ++ "Α ΑΣΑ".toList, false) ∧
    found "ΑΣΑ" = .ok ["a"] ∧ parse "ΑΣ" = [⟨.text "ΑΣ", false⟩] ∧ found "ΑΣ" = .ok [] := by
  decide +kernel

end Mailbox

end Letterbox
