import Letterbox.Proofs.Mailbox.Damage
import Letterbox.Proofs.Query.Tokens

namespace Letterbox

open Query Text

def trimmedQuery (query : Option String) : String :=
  String.ofList (trim (query.getD "").toList)

def firstId : List Summary → Except MailError String
  | s :: _ => .ok s.id
  | [] => .error .noMatch

namespace Tables

def candidates? (t : Tables) (query : String) : Except MailError (List Row) :=
  if allBlank query.toList then .ok t.newestFirst else t.matching? query

def FirstHides (rows : List Row) : Prop :=
  ∃ r rest, rows = r :: rest ∧ r.isReadable = false ∧ ∃ other ∈ rest, other.isReadable = true

theorem latest?_eq (t : Tables) (query : Option String) :
    t.latest? query = (t.candidates? (trimmedQuery query)).bind fun rows =>
      firstId (t.summaries (rows.take 1)) := by
  have hpage (rows : List Row) : page 0 1 rows = rows.take 1 := rfl
  simp only [latest?, isEmpty_trim, candidates?, trimmedQuery, String.toList_ofList, allBlank_trim,
    list, search?_eq, hpage]
  split
  · rfl
  · cases t.matching? (String.ofList (trim (query.getD "").toList)) <;> rfl

theorem summaries_eq_nil_iff {t : Tables} {rows : List Row} :
    t.summaries rows = [] ↔ ∀ r ∈ rows, r.isReadable = false := by
  rw [summaries, List.filterMap_eq_nil_iff]
  refine forall_congr' fun r => imp_congr_right fun _ => ?_
  rw [← isSome_summary? t, Option.isSome_eq_false_iff, Option.isNone_iff_eq_none]

theorem firstId_take {t : Tables} {rows : List Row} (h : ¬ FirstHides rows) :
    firstId (t.summaries (rows.take 1)) = firstId (t.summaries rows) := by
  cases rows with
  | nil => rfl
  | cons r rest =>
    have hfirst : (r :: rest).take 1 = [r] := rfl
    rw [hfirst]
    cases hr : t.summary? r with
    | some s =>
      rw [summaries, summaries, List.filterMap_cons_some hr, List.filterMap_cons_some hr]
      rfl
    | none =>
      have hdamaged : r.isReadable = false := by rw [← isSome_summary? t, hr]; rfl
      have hrest : t.summaries rest = [] := by
        refine summaries_eq_nil_iff.mpr fun other hother => ?_
        rw [← Bool.not_eq_true]
        exact fun hreadable => h ⟨r, rest, rfl, hdamaged, other, hother, hreadable⟩
      rw [summaries, List.filterMap_cons_none hr, summaries, List.filterMap_cons_none hr]
      exact congrArg firstId hrest.symm

theorem firstId_take_of_hides {t : Tables} {rows : List Row} (h : FirstHides rows) :
    t.summaries rows ≠ [] ∧ firstId (t.summaries (rows.take 1)) = .error .noMatch := by
  obtain ⟨r, rest, rfl, hdamaged, other, hother, hreadable⟩ := h
  constructor
  · intro hnil
    have hnone := summaries_eq_nil_iff.mp hnil other (by simp [hother])
    rw [hreadable] at hnone
    cases hnone
  · have hfirst : t.summaries ((r :: rest).take 1) = [] :=
      summaries_eq_nil_iff.mpr (by simpa using hdamaged)
    rw [hfirst]
    rfl

end Tables

namespace Mailbox

def shown (m : Mailbox) (now : Instant) (query : String) (limit : UInt64) :
    Except MailError (List Summary) :=
  if allBlank query.toList then (m.list now 0 limit).1
  else (m.search now query 0 limit).1.map SearchResults.messages

theorem shown_eq {m : Mailbox} (hopen : m.closed = false) (now : Instant) (query : String)
    {limit : UInt64} (hlimit : Tables.signedBound ≤ limit.toNat) :
    m.shown now query limit = (m.tables.candidates? query).map m.tables.summaries := by
  rw [shown, list, search, look_of_open hopen, look_of_open hopen,
    Tables.list_unlimited _ hlimit, Tables.candidates?]
  split
  · rfl
  · cases hrows : m.tables.matching? query with
    | error why =>
      rw [Tables.search?_eq, hrows]
      rfl
    | ok rows =>
      rw [Tables.search?_of_matching hlimit hrows]
      rfl

theorem open_of_shown {m : Mailbox} {now : Instant} {query : String} {limit : UInt64}
    {l : List Summary} (hshown : m.shown now query limit = .ok l) : m.closed = false := by
  cases hclosed : m.closed with
  | true => simp [shown, list, search, look, ask, hclosed, Except.map] at hshown
  | false => rfl

theorem shown_trimmed {query : Option String} (hend : EndsOutside (query.getD "").toList)
    (m : Mailbox) (now : Instant) (limit : UInt64) :
    m.shown now (trimmedQuery query) limit = m.shown now (query.getD "") limit := by
  have hmatching (t : Tables) :
      t.matching? (trimmedQuery query) = t.matching? (query.getD "") := by
    rw [Tables.matching?, trimmedQuery, parse_trim hend, ← Tables.matching?]
  have hblank : allBlank (trimmedQuery query).toList = allBlank (query.getD "").toList := by
    rw [trimmedQuery, String.toList_ofList, allBlank_trim]
  simp only [shown, hblank, search, Tables.search?_eq, hmatching]

theorem latest_of_shown (m : Mailbox) (now : Instant) (query : Option String) {limit : UInt64}
    (hlimit : Tables.signedBound ≤ limit.toNat) :
    (EndsOutside (query.getD "").toList →
      m.shown now (trimmedQuery query) limit = m.shown now (query.getD "") limit) ∧
    ∀ l, m.shown now (trimmedQuery query) limit = .ok l →
      ∃ rows, m.tables.candidates? (trimmedQuery query) = .ok rows ∧
        l = m.tables.summaries rows ∧
        (¬ Tables.FirstHides rows → (m.latest now query).1 = firstId l) ∧
        (Tables.FirstHides rows → l ≠ [] ∧ (m.latest now query).1 = .error .noMatch) := by
  refine ⟨fun hend => shown_trimmed hend m now limit, ?_⟩
  intro l hshown
  have hopen := open_of_shown hshown
  rw [shown_eq hopen now _ hlimit] at hshown
  cases hrows : m.tables.candidates? (trimmedQuery query) with
  | error why =>
    rw [hrows] at hshown
    cases hshown
  | ok rows =>
    rw [hrows] at hshown
    cases hshown
    have hlatest : (m.latest now query).1 = firstId (m.tables.summaries (rows.take 1)) := by
      rw [latest, look_of_open hopen, Tables.latest?_eq, hrows]
      rfl
    refine ⟨rows, rfl, rfl, ?_, ?_⟩
    · intro h
      rw [hlatest, Tables.firstId_take h]
    · intro h
      rw [hlatest]
      exact Tables.firstId_take_of_hides h

theorem latest_of_shown_unread :
    let m := Mailbox.holding [.bare "a" 0 (.json (.object [])), .bare "b" 0 (.broken "no JSON")]
    ∃ l, m.shown ⟨1, 0⟩ "is:unread " (0 - 1) = .ok l ∧ l.map Summary.id = ["a"] ∧
      (m.latest ⟨1, 0⟩ (some "is:unread ")).1 = firstId l := by
  intro m
  have htrimmed : trimmedQuery (some "is:unread ") = "is:unread" := by decide +kernel
  have hlimit : Tables.signedBound ≤ (0 - 1 : UInt64).toNat := by decide
  obtain ⟨hsame, hlatest⟩ := latest_of_shown m ⟨1, 0⟩ (some "is:unread ") hlimit
  have hasked : parse "is:unread" = [⟨.flag .unread, false⟩] := by decide +kernel
  have hunblocked (r : Row) : ¬ Search.Blocks m.tables (parse "is:unread") r :=
    Search.not_blocks_of_readable (by simp [hasked, Search.Unreadable])
  have hcandidates : m.tables.candidates? "is:unread" = .ok m.tables.messages := by
    rw [Tables.candidates?, if_neg (by decide +kernel),
      Tables.matching?_of_not_blocks ⟨by decide +kernel, by decide +kernel⟩ fun r _ => hunblocked r,
      Tables.newestFirst_of_pairwise (by decide), List.filter_eq_self.mpr (by decide +kernel)]
  rw [htrimmed, shown_eq rfl ⟨1, 0⟩ _ hlimit, hcandidates] at hsame hlatest
  obtain ⟨rows, hrows, -, hfirst, -⟩ := hlatest _ rfl
  cases hrows
  refine ⟨_, (hsame (Or.inl (by decide +kernel))).symm, by decide +kernel, hfirst ?_⟩
  rintro ⟨first, rest, hsplit, hdamaged, -⟩
  cases hsplit
  cases hdamaged

theorem latest_of_shown_damaged :
    let m := Mailbox.holding [.bare "b" 0 (.broken "no JSON"), .bare "a" 0 (.json (.object []))]
    (m.list ⟨1, 0⟩ 0 (0 - 1)).1.map (fun l : List Summary => l.map Summary.id) = .ok ["a"] ∧
      (m.latest ⟨1, 0⟩ none).1 = .error .noMatch := by
  intro m
  have horder : m.tables.newestFirst = m.tables.messages :=
    Tables.newestFirst_of_pairwise (by decide)
  constructor
  · rw [list, look_of_open rfl, Tables.list_unlimited m.tables (by decide), horder]
    decide +kernel
  · rw [latest, look_of_open rfl, Tables.latest?_eq, Tables.candidates?,
      if_pos (by decide +kernel), horder]
    decide +kernel

end Mailbox

end Letterbox
