import Letterbox.Proofs.Mailbox.Matching
import Letterbox.Proofs.Mailbox.Searching
import Letterbox.Proofs.Query.Quoted

namespace Letterbox

namespace Tables

open Query Text

structure Seeks (t : Tables) (p : String) : Prop where
  short : Wildcard.isTooLong (Wildcard.containing (lower p.toList)) = false
  whole : Wildcard.IsWhole p.toList
  texts : ∀ s ∈ t.summaries t.newestFirst,
    ∀ text ∈ (Condition.text p).texts (t.indexedText s.id) s, Wildcard.IsWhole text.toList

theorem satisfying_text (t : Tables) (p : String) (l : List Summary) :
    t.satisfying [⟨.text p, false⟩] l =
      l.filter fun s => decide ((Condition.text p).Holds (t.indexedText s.id) s) := by
  refine List.filter_congr ?_
  intro s _
  rw [decide_eq_decide, List.forall_mem_singleton, Term.Holds, if_neg Bool.false_ne_true]

theorem Seeks.inLimits {t : Tables} {p : String} (h : t.Seeks p) :
    InLimits [⟨.text p, false⟩] :=
  Search.inLimits_singleton (by rintro v ⟨⟩; exact h.short)

theorem Seeks.matching?_eq {t : Tables} {p query : String} (ht : t.Sound) (h : t.Seeks p)
    (hquery : parse query = [⟨.text p, false⟩]) :
    ∃ rows, t.matching? query = .ok rows ∧ t.summaries rows =
      (t.summaries t.newestFirst).filter fun s =>
        decide ((Condition.text p).Holds (t.indexedText s.id) s) := by
  obtain ⟨rows, hrows, -, hsummaries⟩ := rows?_eq ht h.inLimits
    (by rw [List.forall_mem_singleton]; rintro v ⟨⟩; exact h.whole)
    (by rw [List.forall_mem_singleton]; rintro f v ⟨⟩)
    (by intro s hs; rw [List.forall_mem_singleton]; exact h.texts s hs)
  refine ⟨rows, ?_, hsummaries.trans (t.satisfying_text p _)⟩
  rw [matching?, hquery, hrows]
  rfl

end Tables

namespace Mailbox

open Query

variable {m : Mailbox}

theorem deletesFound_text (hopen : m.closed = false) (hsound : m.tables.Sound) (now : Instant)
    {p query : String} (hseeks : m.tables.Seeks p) (hquery : parse query = [⟨.text p, false⟩]) :
    ∃ l found, m.DeletesFound now query l found ∧ found.messages =
      l.filter fun s => decide ((Condition.text p).Holds (m.tables.indexedText s.id) s) := by
  have hlimits : InLimits (parse query) := hquery ▸ hseeks.inLimits
  obtain ⟨l, found, hdeletes⟩ := deletesFound hopen hsound now hlimits
  obtain ⟨rows, hmatching, hsummaries⟩ := hseeks.matching?_eq hsound hquery
  have hunlimited : Tables.signedBound ≤ (0 - 1 : UInt64).toNat := by decide
  have hlisted := hdeletes.listed (0 - 1) hunlimited
  rw [list_of_open hopen, Tables.list_unlimited _ hunlimited, Except.ok.injEq] at hlisted
  have hsearched := hdeletes.searched (0 - 1) hunlimited
  rw [search_of_matching hopen now hmatching, Tables.page_unlimited _ hunlimited,
    Except.ok.injEq] at hsearched
  refine ⟨l, found, hdeletes, ?_⟩
  rw [← hsearched, ← hlisted]
  exact hsummaries

theorem phrase_run {t : Tables} (ht : t.Reached) {config : Config} {webhook : Bool}
    {start : Instant} {m : Mailbox} (hopen : open? config t webhook start = .ok m)
    (requests : List Request) (now : Instant) {p : String} (hne : p ≠ "")
    (hquote : '"' ∉ p.toList) :
    (∃ term, parse (phraseQuery p) = [term] ∧ (term.negated = true ↔ IsNegated p.toList) ∧
      (term = ⟨.text p, false⟩ ↔ IsPlain p.toList)) ∧
    (IsPlain p.toList → (m.run requests).tables.Seeks p →
      ∃ l found, (m.run requests).DeletesFound now (phraseQuery p) l found ∧ found.messages =
        l.filter fun s =>
          decide ((Condition.text p).Holds ((m.run requests).tables.indexedText s.id) s)) := by
  have hparse := parse_phraseQuery hne hquote
  have htext : Term.ofToken p.toList = ⟨.text p, false⟩ ↔ IsPlain p.toList := by
    rw [← Term.ofToken_eq_text_iff, String.ofList_toList]
  refine ⟨⟨Term.ofToken p.toList, hparse, Term.negated_ofToken_iff, htext⟩, ?_⟩
  intro hplain hseeks
  have hsound := (Tables.Reached.session ht hopen requests).sound
  exact deletesFound_text (closed_run hopen requests) hsound now hseeks
    (by rw [hparse, htext.mpr hplain])

theorem phrase_run_subject :
    let m := ({ config := {}, rules := ⟨[]⟩ } : Mailbox).run
      [⟨⟨1, 0⟩, .store "a" (Text.encode "Subject: A b: c\n\n".toList), by decide⟩]
    ∃ l found, m.DeletesFound ⟨2, 0⟩ (phraseQuery "a b: c") l found ∧ found.messages =
      l.filter fun s =>
        decide ((Condition.text "a b: c").Holds (m.tables.indexedText s.id) s) := by
  intro m
  have hopen : open? {} {} false ⟨0, 0⟩ = .ok { config := {}, rules := ⟨[]⟩ } := rfl
  have hplain : IsPlain "a b: c".toList := Term.ofToken_eq_text_iff.mp (by decide +kernel)
  exact (phrase_run .empty hopen _ ⟨2, 0⟩ (by decide) (by decide)).2 hplain
    ⟨by decide +kernel, by decide +kernel, by decide +kernel⟩

theorem phrase_run_marked :
    let m := ({ config := {}, rules := ⟨[]⟩ } : Mailbox).run
      [⟨⟨1, 0⟩, .store "a" (Text.encode "Subject: c\n\n".toList), by decide⟩]
    parse (phraseQuery "-draft") = [⟨.text "draft", true⟩] ∧
      parse (phraseQuery "from:draft") = [⟨.field .sender "draft", false⟩] ∧
      m.tables.messages.map Row.id = ["a"] ∧
      (∀ s ∈ m.tables.summaries m.tables.messages,
        ¬ (Condition.text "-draft").Holds (m.tables.indexedText s.id) s) ∧
      (m.deleteMatching ⟨2, 0⟩ (phraseQuery "-draft")).2.tables.messages = [] :=
  ⟨by decide +kernel, by decide +kernel, by decide +kernel, by decide +kernel, by decide +kernel⟩

end Mailbox

end Letterbox
