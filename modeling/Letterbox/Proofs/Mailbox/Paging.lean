import Letterbox.Proofs.Mailbox.Listing
import Letterbox.Proofs.Mailbox.Outcome

namespace Letterbox

namespace Tables

def Precedes (t : Tables) (r r' : Row) : Prop :=
  r'.created < r.created ∨ r'.created = r.created ∧ [r, r'].Sublist t.messages

structure Ordered (t : Tables) (l : List Summary) : Prop where
  ids_nodup : (l.map Summary.id).Nodup
  rows : ∃ rows, (∀ r ∈ rows, r ∈ t.messages) ∧
    List.Forall₂ (fun r s => t.summary? r = some s) rows l ∧ rows.Pairwise t.Precedes

variable {t : Tables}

theorem pairwise_newestFirst (t : Tables) : t.newestFirst.Pairwise t.Precedes := by
  refine (pairwise_mergeSort_stable newer_trans newer_total t.messages).imp ?_
  intro r r' h
  simp only [decide_eq_true_eq] at h
  rcases Int.lt_or_eq_of_le h.1 with hlt | heq
  · exact Or.inl hlt
  · exact Or.inr ⟨heq, h.2 (Int.le_of_eq heq.symm)⟩

theorem page_append {α : Type} {o a b : UInt64} (h : o.toNat + a.toNat + b.toNat < signedBound)
    (l : List α) : page o a l ++ page (o + a) b l = page o (a + b) l := by
  have hbound : signedBound < 2 ^ 64 := by decide
  have hoffset : (o + a).toNat = o.toNat + a.toNat := by
    rw [UInt64.toNat_add, Nat.mod_eq_of_lt (by omega)]
  have hlimit : (a + b).toNat = a.toNat + b.toNat := by
    rw [UInt64.toNat_add, Nat.mod_eq_of_lt (by omega)]
  have ho : o.toNat < signedBound := by omega
  have ha : a.toNat < signedBound := by omega
  have hb : b.toNat < signedBound := by omega
  have hoa : o.toNat + a.toNat < signedBound := by omega
  have hab : a.toNat + b.toNat < signedBound := by omega
  simp only [page, hoffset, hlimit, if_pos ho, if_pos ha, if_pos hb, if_pos hoa, if_pos hab]
  rw [← List.drop_drop, ← List.take_add]

theorem summaries_page_append {o a b : UInt64} (h : o.toNat + a.toNat + b.toNat < signedBound)
    (rows : List Row) : t.summaries (page o a rows) ++ t.summaries (page (o + a) b rows) =
      t.summaries (page o (a + b) rows) := by
  rw [← page_append h, summaries, summaries, summaries, List.filterMap_append]

theorem exists_rows_of_summaries (t : Tables) (rows : List Row) :
    ∃ shown, shown.Sublist rows ∧
      List.Forall₂ (fun r s => t.summary? r = some s) shown (t.summaries rows) := by
  induction rows with
  | nil => exact ⟨[], .slnil, .nil⟩
  | cons r rows ih =>
    obtain ⟨shown, hsub, hshown⟩ := ih
    cases hs : t.summary? r with
    | none =>
      rw [summaries, List.filterMap_cons_none hs]
      exact ⟨shown, hsub.cons r, hshown⟩
    | some s =>
      rw [summaries, List.filterMap_cons_some hs]
      exact ⟨r :: shown, hsub.cons_cons r, .cons hs hshown⟩

theorem ordered_summaries (hids : (t.messages.map Row.id).Nodup) {rows : List Row}
    (h : rows.Sublist t.newestFirst) : t.Ordered (t.summaries rows) := by
  obtain ⟨shown, hsub, hshown⟩ := t.exists_rows_of_summaries rows
  have hnewest := hsub.trans h
  constructor
  case ids_nodup =>
    rw [map_of_forall₂ hshown fun r s hs => summary?_id hs]
    exact ((t.newestFirst_perm.map Row.id).nodup_iff.mpr hids).sublist (hnewest.map Row.id)
  case rows =>
    exact ⟨shown, mem_of_sublist hnewest, hshown, t.pairwise_newestFirst.sublist hnewest⟩

end Tables

namespace Mailbox

/-- That pages side by side are one page, and that pages are in order and have no message twice. -/
structure Tiles (m : Mailbox) (o a b : UInt64) : Prop where
  lists : ∀ now later last, ∃ first second, (m.list now o a).1 = .ok first ∧
    ((m.list now o a).2.list later (o + a) b).1 = .ok second ∧
    (m.list last o (a + b)).1 = .ok (first ++ second)
  searches : ∀ query before offset limit found, (m.search before query offset limit).1 = .ok found →
    ∀ now later last, ∃ first second, (m.search now query o a).1 = .ok first ∧
      ((m.search now query o a).2.search later query (o + a) b).1 = .ok second ∧
      (m.search last query o (a + b)).1 =
        .ok { messages := first.messages ++ second.messages, total := found.total } ∧
      first.total = found.total ∧ second.total = found.total
  listed : ∀ now offset limit l, (m.list now offset limit).1 = .ok l → m.tables.Ordered l
  searched : ∀ now query offset limit found, (m.search now query offset limit).1 = .ok found →
    m.tables.Ordered found.messages

variable {m : Mailbox}

theorem tiles_of_open (hopen : m.closed = false) (hids : (m.tables.messages.map Row.id).Nodup)
    {o a b : UInt64} (h : o.toNat + a.toNat + b.toNat < Tables.signedBound) : m.Tiles o a b := by
  constructor
  case lists =>
    intro now later last
    refine ⟨m.tables.list o a, m.tables.list (o + a) b, ?_, ?_, ?_⟩
    · rw [list_of_open hopen]
    · rw [list_of_open hopen, list_of_open (m := m.touch now) hopen, touch_tables]
    · rw [list_of_open hopen]
      exact congrArg _ (Tables.summaries_page_append h _).symm
  case searches =>
    intro query before offset limit found hfound now later last
    obtain ⟨rows, hrows, rfl⟩ := search_cases hopen hfound
    let page (offset limit : UInt64) : SearchResults :=
      { messages := m.tables.summaries (Tables.page offset limit rows)
        total := rows.length.toUInt64 }
    refine ⟨page o a, page (o + a) b, ?_, ?_, ?_, rfl, rfl⟩
    · rw [search_of_matching hopen now hrows]
    · rw [search_of_matching hopen now hrows,
        search_of_matching (m := m.touch now) hopen later hrows, touch_tables]
    · rw [search_of_matching hopen last hrows, ← Tables.summaries_page_append h]
  case listed =>
    intro now offset limit l hl
    rw [list_of_open hopen, Except.ok.injEq] at hl
    exact hl ▸ Tables.ordered_summaries hids (Tables.page_sublist _ _ _)
  case searched =>
    intro now query offset limit found hfound
    obtain ⟨rows, hrows, rfl⟩ := search_cases hopen hfound
    exact Tables.ordered_summaries hids
      ((Tables.page_sublist _ _ _).trans (Tables.matching?_sublist hrows))

theorem tiles_of_open_damaged :
    (holding [.bare "c" 5 (.json (.object [])), .bare "b" 7 (.broken "no JSON"),
      .bare "a" 5 (.json (.object []))]).Tiles 0 2 1 :=
  tiles_of_open rfl (by decide) (by decide)

end Mailbox

end Letterbox
