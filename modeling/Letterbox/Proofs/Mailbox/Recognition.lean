import Letterbox.Proofs.Mailbox.Retrieval
import Letterbox.Proofs.Text.Trim

namespace Letterbox

open Text

theorem toList_trimBrackets (s : String) :
    (trimBrackets s).toList = trimBoth (fun c => c == '<' || c == '>') (trim s.toList) := by
  rw [trimBrackets, String.toList_ofList]

theorem trimBrackets_trimBrackets_iff (s : String) :
    trimBrackets (trimBrackets s) = trimBrackets s ↔ IsTrimmed (trimBrackets s).toList := by
  rw [← String.toList_inj, toList_trimBrackets (trimBrackets s)]
  constructor
  · intro h
    exact isTrimmed_of_trimBoth_trim h
  · intro h
    rw [h.trim_eq, toList_trimBrackets]
    exact trimBoth_eq_self (fun _ hc => not_of_mem_head?_trimBoth hc)
      fun _ hc => not_of_mem_getLast?_trimBoth hc

namespace Tables

theorem hasMessageId_iff {t : Tables} {messageId : String} :
    t.hasMessageId messageId = true ↔ ∃ r ∈ t.messages, r.messageId = trimBrackets messageId := by
  simp [hasMessageId]

theorem Shelved.hasMessageId_iff_listed {t : Tables} (ht : t.Shelved) {messageId : String} :
    t.hasMessageId messageId = true ↔
      ∃ s ∈ t.summaries t.newestFirst, s.messageId = trimBrackets messageId := by
  have hsame : (t.summaries t.newestFirst).map Summary.messageId =
      t.newestFirst.map Row.messageId :=
    map_of_forall₂ ht.shows_newestFirst fun _ _ h => h.messageId
  rw [hasMessageId_iff, ← List.mem_map, ← List.mem_map, hsame,
    (t.newestFirst_perm.map Row.messageId).mem_iff]

end Tables

namespace Mailbox

theorem hasMessageId_of_open {m : Mailbox} (hopen : m.closed = false) (now : Instant)
    (messageId : String) :
    (m.hasMessageId now messageId).1 = .ok (m.tables.hasMessageId messageId) := by
  rw [hasMessageId, look_of_open hopen]

structure Recognizes (m : Mailbox) (now : Instant) (l : List Summary) (s : Summary)
    (field : String) : Prop where
  shown : s.messageId = trimBrackets field
  field : (m.hasMessageId now field).1 = .ok true
  own : IsTrimmed s.messageId.toList → (m.hasMessageId now s.messageId).1 = .ok true
  other : ¬ IsTrimmed s.messageId.toList → ((m.hasMessageId now s.messageId).1 = .ok true ↔
    ∃ other ∈ l, other.messageId ≠ s.messageId ∧ other.messageId = trimBrackets s.messageId)

theorem recognizes_of_listed {m : Mailbox} (hopen : m.closed = false) (ht : m.tables.Shelved)
    (now : Instant) {s : Summary} (hs : s ∈ m.tables.summaries m.tables.newestFirst)
    {field : String} (hfield : s.messageId = trimBrackets field) :
    m.Recognizes now (m.tables.summaries m.tables.newestFirst) s field := by
  have hasks (messageId : String) : (m.hasMessageId now messageId).1 = .ok true ↔
      ∃ other ∈ m.tables.summaries m.tables.newestFirst,
        other.messageId = trimBrackets messageId := by
    rw [hasMessageId_of_open hopen, Except.ok.injEq, ht.hasMessageId_iff_listed]
  have hown : trimBrackets s.messageId = s.messageId ↔ IsTrimmed s.messageId.toList := by
    rw [hfield]
    exact trimBrackets_trimBrackets_iff field
  constructor
  case shown => exact hfield
  case field => exact (hasks field).mpr ⟨s, hs, hfield⟩
  case own =>
    intro htrimmed
    exact (hasks s.messageId).mpr ⟨s, hs, (hown.mpr htrimmed).symm⟩
  case other =>
    intro hblank
    rw [hasks]
    constructor
    · rintro ⟨other, hother, hid⟩
      refine ⟨other, hother, fun hsame => ?_, hid⟩
      exact hblank (hown.mp (hid.symm.trans hsame))
    · rintro ⟨other, hother, -, hid⟩
      exact ⟨other, hother, hid⟩

theorem hasMessageId_run {t : Tables} (ht : t.Reached) {config : Config} {webhook : Bool}
    {start : Instant} {m : Mailbox} (hopen : open? config t webhook start = .ok m)
    (requests : List Request) (now : Instant) {limit : UInt64}
    (hlimit : Tables.signedBound ≤ limit.toNat) :
    ∃ l, ((m.run requests).list now 0 limit).1 = .ok l ∧
      (l.map Summary.id).Perm ((m.run requests).tables.messages.map Row.id) ∧
      ∀ s ∈ l, ∃ raw e, ((m.run requests).raw now s.id).1 = .ok raw ∧
        Envelope.parse raw = .ok e ∧
        (m.run requests).Recognizes now l s (e.header "Message-ID") := by
  have hclosed := closed_run hopen requests
  have hshelved := (Tables.Reached.session ht hopen requests).sound.shelved
  refine ⟨_, by rw [list_of_open hclosed, Tables.list_unlimited _ hlimit], hshelved.ids_perm, ?_⟩
  intro s hs
  obtain ⟨r, hr, hsummary⟩ := Tables.mem_summaries_newestFirst.mp hs
  obtain ⟨raw, e, created, hraw, hparse, -, hdigest⟩ :=
    contents_of_row? hshelved (hshelved.row?_of_mem hr)
  refine ⟨raw, e, ?_, hparse, recognizes_of_listed hclosed hshelved now hs ?_⟩
  · rw [Mailbox.raw, look_of_open hclosed, Tables.summary?_id hsummary, hraw]
  · obtain ⟨shown, hshown, hshows⟩ := hshelved.exists_shows hr
    rw [hsummary, Option.some.injEq] at hshown
    subst hshown
    rw [hshows.messageId, hdigest]
    rfl

theorem hasMessageId_run_bracketed :
    let m := ({ config := {}, rules := ⟨[]⟩ } : Mailbox).run
      [⟨⟨1, 0⟩, .store "a" (encode "Message-ID: <x@y>\n\n".toList), by decide⟩]
    ∃ s, (m.list ⟨2, 0⟩ 0 (0 - 1)).1 = .ok [s] ∧ s.messageId = "x@y" ∧
      (m.hasMessageId ⟨2, 0⟩ "x@y").1 = .ok true := by
  intro m
  have hopen : open? {} {} false ⟨0, 0⟩ = .ok { config := {}, rules := ⟨[]⟩ } := rfl
  have hlisted : (m.list ⟨2, 0⟩ 0 (0 - 1)).1.map (List.map Summary.messageId) = .ok ["x@y"] := by
    decide +kernel
  have hlimit : Tables.signedBound ≤ (0 - 1 : UInt64).toNat := by decide
  obtain ⟨l, hl, -, hrecognized⟩ := hasMessageId_run .empty hopen
    [⟨⟨1, 0⟩, .store "a" (encode "Message-ID: <x@y>\n\n".toList), by decide⟩] ⟨2, 0⟩ hlimit
  have hids : l.map Summary.messageId = ["x@y"] := by
    rw [hl] at hlisted
    exact Except.ok.inj hlisted
  obtain ⟨s, rfl, hs⟩ := List.map_eq_singleton_iff.mp hids
  obtain ⟨raw, e, -, -, hown⟩ := hrecognized s (List.mem_singleton_self s)
  refine ⟨s, hl, hs, ?_⟩
  rw [← hs]
  refine hown.own ?_
  have htrimmed : trim "x@y".toList = "x@y".toList := by decide
  rw [hs, ← htrimmed]
  exact isTrimmed_trim _

theorem hasMessageId_run_blank :
    let m := ({ config := {}, rules := ⟨[]⟩ } : Mailbox).run
      [⟨⟨1, 0⟩, .store "a" (encode "Message-ID: < x@y >\n\n".toList), by decide⟩]
    (m.list ⟨2, 0⟩ 0 1).1.map (List.map Summary.messageId) = .ok [" x@y "] ∧
      (m.hasMessageId ⟨2, 0⟩ " x@y ").1 = .ok false ∧
      (m.hasMessageId ⟨2, 0⟩ "< x@y >").1 = .ok true := by
  decide +kernel

end Mailbox

end Letterbox
