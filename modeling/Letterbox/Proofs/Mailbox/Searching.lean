import Letterbox.Proofs.Mailbox.Run
import Letterbox.Proofs.Mailbox.SearchMeaning
import Letterbox.Proofs.Query.Prefix

namespace Letterbox

namespace Query

theorem ne_empty_of_parse {query : String} {term : Term} (hterm : term ∈ parse query) {f : Field}
    {v : String} (h : term.condition = .field f v) : v ≠ "" := by
  obtain ⟨token, -, rfl⟩ := List.mem_map.mp hterm
  obtain ⟨rest, hrest⟩ := Term.exists_condition token
  rw [h] at hrest
  rcases Condition.ofToken_cases rest with hnames | htext
  · rw [← hrest] at hnames
    exact hnames.ne_empty
  · rw [← hrest] at htext
    cases htext

end Query

namespace Search

open Query Text

variable {t : Tables} {r : Row} {s : Summary}

theorem Tells.holds_term_iff {indexed : String} {term : Term}
    (h : Tells (conditionHolds? t r term.condition) (term.condition.Holds indexed s)) :
    holds t r term = true ↔ term.Holds indexed s := by
  obtain ⟨b, hb, hholds⟩ := h
  rw [holds, hb]
  unfold Term.Holds
  cases term.negated <;> cases b <;> simp_all

end Search

namespace Tables

open Query Text

def indexedText (t : Tables) (id : String) : String :=
  ((t.row? id).map Row.searchText).getD ""

def satisfying (t : Tables) (terms : List Term) (l : List Summary) : List Summary :=
  l.filter fun s => decide (∀ term ∈ terms, term.Holds (t.indexedText s.id) s)

theorem indexedText_of_mem {t : Tables} (ht : t.Shelved) {r : Row} (hr : r ∈ t.messages) :
    t.indexedText r.id = r.searchText := by
  rw [indexedText, ht.row?_of_mem hr]
  rfl

section Found

variable {t : Tables} (ht : t.Sound) {terms : List Term} (hlimits : InLimits terms)
  (hvalues : ∀ term ∈ terms, ∀ v ∈ term.condition.value?, Wildcard.IsWhole v.toList)
  (hfields : ∀ term ∈ terms, ∀ f v, term.condition = .field f v → v ≠ "")

include ht hlimits hvalues hfields

theorem tells_of_shown {r : Row} (hr : r ∈ t.messages) {s : Summary} (hs : t.summary? r = some s)
    (htexts : ∀ term ∈ terms, ∀ text ∈ term.condition.texts (t.indexedText s.id) s,
      Wildcard.IsWhole text.toList) :
    ∀ term ∈ terms, Search.Tells (Search.conditionHolds? t r term.condition)
      (term.condition.Holds (t.indexedText s.id) s) := by
  obtain ⟨p, -, hrp⟩ := mem_of_describes ht.shelved.described hr
  have hshows : t.Shows r s := by
    obtain ⟨s', hs', hshows⟩ := summary?_of_describes t hrp
    rw [hs, Option.some.injEq] at hs'
    exact hs' ▸ hshows
  have hindexed : t.indexedText s.id = r.searchText :=
    hshows.id ▸ indexedText_of_mem ht.shelved hr
  rw [hindexed] at htexts ⊢
  intro term hterm
  exact Search.tells_condition ht.tagged hshows hrp.lowerAscii_searchText
    (hlimits.length term hterm) (hvalues term hterm) (hfields term hterm) (htexts term hterm)

theorem rows?_eq
    (htexts : ∀ s ∈ t.summaries t.newestFirst, ∀ term ∈ terms,
      ∀ text ∈ term.condition.texts (t.indexedText s.id) s, Wildcard.IsWhole text.toList) :
    ∃ rows, Search.rows? t false none terms = .ok rows ∧ (∀ r ∈ rows, r ∈ t.messages) ∧
      t.summaries rows = t.satisfying terms (t.summaries t.newestFirst) := by
  -- rows are searched before they are shown, so each is tested through the entry it will have
  have hshown : ∀ r ∈ t.newestFirst, ∃ s, t.summary? r = some s ∧
      ∀ term ∈ terms, Search.Tells (Search.conditionHolds? t r term.condition)
        (term.condition.Holds (t.indexedText s.id) s) := by
    intro r hr
    have hmem := mem_newestFirst.mp hr
    obtain ⟨s, hs, -⟩ := ht.shelved.exists_shows hmem
    have hlisted : s ∈ t.summaries t.newestFirst := List.mem_filterMap.mpr ⟨r, hr, hs⟩
    exact ⟨s, hs, tells_of_shown ht hlimits hvalues hfields hmem hs (htexts s hlisted)⟩
  have hrows := Search.rows?_of_decided hlimits.depth fun r hr term hterm => by
    obtain ⟨s, -, htells⟩ := hshown r hr
    obtain ⟨b, hb, -⟩ := htells term hterm
    exact ⟨b, hb⟩
  refine ⟨_, hrows, ?_, ?_⟩
  · intro r hr
    exact mem_newestFirst.mp (List.mem_of_mem_filter hr)
  · refine summaries_filter ?_
    intro r hr
    obtain ⟨s, hs, htells⟩ := hshown r hr
    refine ⟨s, hs, ?_⟩
    rw [Bool.eq_iff_iff, List.all_eq_true, decide_eq_true_iff]
    exact forall₂_congr fun term hterm => (htells term hterm).holds_term_iff

end Found

end Tables

namespace Mailbox

open Query Text

theorem search_run {t : Tables} (ht : t.Reached) {config : Config} {webhook : Bool}
    {start : Instant} {m : Mailbox} (hopen : open? config t webhook start = .ok m)
    (requests : List Request) (now : Instant) {query : String}
    (hlimits : InLimits (parse query))
    (hvalues : ∀ term ∈ parse query, ∀ v ∈ term.condition.value?, Wildcard.IsWhole v.toList)
    {limit : UInt64} (hlimit : Tables.signedBound ≤ limit.toNat)
    (htexts : ∀ l, ((m.run requests).list now 0 limit).1 = .ok l → ∀ s ∈ l, ∀ term ∈ parse query,
      ∀ text ∈ term.condition.texts ((m.run requests).tables.indexedText s.id) s,
        Wildcard.IsWhole text.toList) :
    ∃ l, ((m.run requests).list now 0 limit).1 = .ok l ∧
      ((m.run requests).search now query 0 limit).1 = .ok
        { messages := (m.run requests).tables.satisfying (parse query) l
          total := ((m.run requests).tables.satisfying (parse query) l).length.toUInt64 } := by
  have hsound := (Tables.Reached.session ht hopen requests).sound
  obtain ⟨-, hclosed, -⟩ := open?_cases hopen
  have hclosed' := (leadsTo_run hclosed requests).closed.trans hclosed
  have hlist : ((m.run requests).list now 0 limit).1 =
      .ok ((m.run requests).tables.summaries (m.run requests).tables.newestFirst) := by
    rw [list, look_of_open hclosed', Tables.list_unlimited _ hlimit]
  obtain ⟨rows, hrows, hmem, hsummaries⟩ := Tables.rows?_eq hsound hlimits hvalues
    (fun term hterm f v h => ne_empty_of_parse hterm h) (htexts _ hlist)
  have hmatching : (m.run requests).tables.matching? query = .ok rows := by
    rw [Tables.matching?, hrows]
    rfl
  have hlength := (hsound.shelved.shows hmem).length_eq
  refine ⟨_, hlist, ?_⟩
  rw [search, look_of_open hclosed', Tables.search?_eq, hmatching]
  simp only [Except.map, Tables.page_unlimited _ hlimit, ← hsummaries, hlength]

theorem search_run_sender :
    let m := run { config := {}, rules := ⟨[]⟩ }
      [⟨⟨1, 0⟩, .store "a" [70, 114, 111, 109, 58, 32, 120, 64, 121, 10, 10], by decide⟩]
    ∃ l, (m.list ⟨2, 0⟩ 0 (0 - 1)).1 = .ok l ∧
      (m.search ⟨2, 0⟩ "from:X -is:read" 0 (0 - 1)).1 = .ok
        { messages := m.tables.satisfying (parse "from:X -is:read") l
          total := (m.tables.satisfying (parse "from:X -is:read") l).length.toUInt64 } := by
  have hopen : open? {} {} false ⟨0, 0⟩ = .ok { config := {}, rules := ⟨[]⟩ } := rfl
  refine search_run .empty hopen _ _ ⟨by decide +kernel, by decide +kernel⟩ (by decide +kernel)
    (by decide) ?_
  have htexts : ∀ s ∈ ((run { config := {}, rules := ⟨[]⟩ }
      [⟨⟨1, 0⟩, .store "a" [70, 114, 111, 109, 58, 32, 120, 64, 121, 10, 10], by decide⟩]).list
        ⟨2, 0⟩ 0 (0 - 1)).1.toOption.getD [], ∀ term ∈ parse "from:X -is:read",
      ∀ text ∈ term.condition.texts ((run { config := {}, rules := ⟨[]⟩ }
        [⟨⟨1, 0⟩, .store "a" [70, 114, 111, 109, 58, 32, 120, 64, 121, 10, 10],
          by decide⟩]).tables.indexedText s.id) s, Wildcard.IsWhole text.toList := by
    decide +kernel
  intro l hl
  rw [hl] at htexts
  exact htexts

theorem search_run_alike :
    let m := run { config := {}, rules := ⟨[]⟩ }
      [⟨⟨1, 0⟩, .store "a" (encode "Subject: \uFFFF\n\n".toList), by decide⟩]
    InLimits (parse "subject:\uFFFE") ∧
      parse "subject:\uFFFE" = [⟨.field .subject "\uFFFE", false⟩] ∧
      (m.list ⟨2, 0⟩ 0 (0 - 1)).1.map (List.map Summary.subject) = .ok ["\uFFFF"] ∧
      (m.search ⟨2, 0⟩ "subject:\uFFFE" 0 (0 - 1)).1.map (fun r => r.messages.map Summary.id) =
        .ok ["a"] ∧
      ¬ lowerAscii "\uFFFE".toList <:+: lowerAscii "\uFFFF".toList :=
  ⟨⟨by decide +kernel, by decide +kernel⟩, by decide +kernel, by decide +kernel, by decide +kernel,
    by decide +kernel⟩

end Mailbox

end Letterbox
