import Letterbox.Proofs.Mailbox.Finding
import Letterbox.Proofs.Text.Lowering

namespace Letterbox

open Query Text

namespace Search

section Congr

variable {v w : List Char} (hv : Wildcard.IsWhole v) (h : lowerAscii w = lowerAscii v)

include hv h

theorem contains?_congr : contains? w = contains? v := by
  have hlong : Wildcard.isTooLong (Wildcard.containing w) =
      Wildcard.isTooLong (Wildcard.containing v) := by
    rw [← Wildcard.isTooLong_lowerAscii w, h, Wildcard.isTooLong_lowerAscii]
  funext text
  simp only [contains?, hlong, Wildcard.matches?_containing_congr hv h]

theorem anyContains?_congr : anyContains? w = anyContains? v := by
  funext texts
  induction texts with
  | nil => rfl
  | cons text texts ih => rw [anyContains?, anyContains?, contains?_congr hv h, ih]

theorem anyItem?_congr : anyItem? w = anyItem? v := by
  funext items
  induction items with
  | nil => rfl
  | cons item items ih => rw [anyItem?, anyItem?, anyContains?_congr hv h, ih]

theorem anyListed?_congr : anyListed? w = anyListed? v := by
  funext metadata names
  induction names with
  | nil => rfl
  | cons name names ih => rw [anyListed?, anyListed?, anyItem?_congr hv h, ih]

theorem senderHas?_congr : senderHas? w = senderHas? v := by
  funext metadata
  rw [senderHas?, senderHas?, anyContains?_congr hv h]

end Congr

section Field

variable {f : Field} (hf : f.isAddress = true ∨ f = .subject) {v w : String}
  (hv : Wildcard.IsWhole v.toList) (h : lowerAscii w.toList = lowerAscii v.toList)

include hf hv h

theorem fieldHolds?_congr (t : Tables) (r : Row) : fieldHolds? t r f w = fieldHolds? t r f v := by
  have hsender := senderHas?_congr hv h
  have hlisted := anyListed?_congr hv h
  have hcontains := contains?_congr hv h
  cases f with
  | messageId => simp [Field.isAddress] at hf
  | tag => simp [Field.isAddress] at hf
  | _ => simp only [fieldHolds?, hsender, hlisted, hcontains]

theorem rows?_congr (t : Tables) (negated : Bool) :
    rows? t false none [⟨.field f w, negated⟩] = rows? t false none [⟨.field f v, negated⟩] := by
  have hdepth : totalDepth [⟨.field f w, negated⟩] = totalDepth [⟨.field f v, negated⟩] := by
    cases f <;> rfl
  have hhold : (fun r => allHold? t r [⟨.field f w, negated⟩]) =
      fun r => allHold? t r [⟨.field f v, negated⟩] := by
    funext r
    simp only [allHold?, conditionHolds?, fieldHolds?_congr hf hv h]
  simp only [rows?, hdepth, plan_singleton, hhold, ite_self]

end Field

end Search

namespace Query

/-- That a field of a message has a value as it is, up to the case of ASCII letters, and has it
folded, as tags are, in none of its other texts. -/
structure Field.HasUnfolded (f : Field) (v : String) (s : Summary) : Prop where
  whole : ∀ text ∈ f.texts s, Wildcard.IsWhole text.toList
  value : ∃ text ∈ f.texts s, lowerAscii text.toList = lowerAscii v.toList
  others : ∀ text ∈ f.texts s,
    lowerAscii text.toList = lowerAscii v.toList ∨ ¬ Mentions (Tag.key v) text

theorem Field.holds_iff {f : Field} (hf : f.isAddress = true ∨ f = .subject) {v indexed : String}
    {s : Summary} :
    (Condition.field f v).Holds indexed s ↔ ∃ text ∈ f.texts s, Mentions v text := by
  cases f with
  | messageId => simp [Field.isAddress] at hf
  | tag => simp [Field.isAddress] at hf
  | _ => exact Iff.rfl

theorem mentions_of_same {v text : String} (h : lowerAscii text.toList = lowerAscii v.toList) :
    Mentions v text := by
  rw [Mentions, Wildcard.folded, Wildcard.folded, h]

theorem not_mentions_key {v text : String} (hv : ¬ IsLoweredAsAscii v.toList)
    (h : lowerAscii text.toList = lowerAscii v.toList) : ¬ Mentions (Tag.key v) text := by
  intro hinfix
  have hfolded : Wildcard.folded (Tag.key v).toList = Wildcard.reading (lower v.toList) := by
    rw [Tag.key, String.toList_ofList, Wildcard.folded, lowerAscii_lower]
  have htext : Wildcard.folded text.toList = Wildcard.folded v.toList :=
    congrArg Wildcard.reading h
  rw [Mentions, hfolded, htext] at hinfix
  have hlower : v.toList.length ≤ (lower v.toList).length := length_le_lowerAfter [] v.toList
  have hlength : (Wildcard.folded v.toList).length ≤ (Wildcard.reading (lower v.toList)).length := by
    simpa [Wildcard.folded, Wildcard.reading, lowerAscii] using hlower
  have heq := hinfix.eq_of_length (Nat.le_antisymm hinfix.length_le hlength)
  exact hv (isLoweredAsAscii_of_reading heq)

theorem Field.HasUnfolded.mentions {f : Field} {v : String} {s : Summary}
    (hv : ¬ IsLoweredAsAscii v.toList) (h : f.HasUnfolded v s) :
    (∃ text ∈ f.texts s, Mentions v text) ∧ ¬ ∃ text ∈ f.texts s, Mentions (Tag.key v) text := by
  constructor
  · obtain ⟨text, htext, hsame⟩ := h.value
    exact ⟨text, htext, mentions_of_same hsame⟩
  · rintro ⟨text, htext, hmentions⟩
    rcases h.others text htext with hsame | hnot
    · exact not_mentions_key hv hsame hmentions
    · exact hnot hmentions

end Query

theorem Tables.Sound.mem_keptBy_field {t : Tables} (ht : t.Sound) {f : Field}
    (hf : f.isAddress = true ∨ f = .subject) {v : String} (hv : Wildcard.IsWhole v.toList)
    (hne : v ≠ "") {negated : Bool} (hlimits : InLimits [⟨.field f v, negated⟩]) {r : Row}
    (hr : r ∈ t.messages) {s : Summary} (hs : t.summary? r = some s)
    (htexts : ∀ text ∈ f.texts s, Wildcard.IsWhole text.toList) :
    r ∈ t.keptBy [⟨.field f v, negated⟩] ↔
      (negated = false ↔ ∃ text ∈ f.texts s, Mentions v text) := by
  obtain ⟨s', hs', hshows⟩ := ht.shelved.exists_shows hr
  rw [hs, Option.some.injEq] at hs'
  subst hs'
  have htells : Search.Tells (Search.conditionHolds? t r (.field f v))
      ((Condition.field f v).Holds r.searchText s) :=
    Search.tells_field ht.tagged hshows (hlimits.length _ (List.mem_singleton_self _)) hv hne
      htexts
  rw [Tables.mem_keptBy_iff hr, List.forall_mem_singleton, htells.holds_iff, Field.holds_iff hf]

namespace Mailbox

variable {m : Mailbox}

theorem search_congr (hopen : m.closed = false) (now : Instant) {query other : String}
    (h : Search.rows? m.tables false none (parse query) =
      Search.rows? m.tables false none (parse other))
    (offset limit : UInt64) :
    (m.search now query offset limit).1 = (m.search now other offset limit).1 := by
  rw [search, search, look_of_open hopen, look_of_open hopen, Tables.search?_eq, Tables.search?_eq,
    Tables.matching?, Tables.matching?, h]

theorem search_run_folded {t : Tables} (ht : t.Reached) {config : Config} {webhook : Bool}
    {start : Instant} {m : Mailbox} (hopen : open? config t webhook start = .ok m)
    (requests : List Request) (now : Instant) {f : Field}
    (hf : f.isAddress = true ∨ f = .subject) {v : String} (hv : Wildcard.IsWhole v.toList)
    {negated : Bool} {query folded : String} (hquery : parse query = [⟨.field f v, negated⟩])
    (hfolded : parse folded = [⟨.field f (Tag.key v), negated⟩]) :
    (IsLoweredAsAscii v.toList → ∀ offset limit : UInt64,
      ((m.run requests).search now folded offset limit).1 =
        ((m.run requests).search now query offset limit).1) ∧
    (¬ IsLoweredAsAscii v.toList → InLimits (parse query) → InLimits (parse folded) →
      ∀ limit : UInt64, Tables.signedBound ≤ limit.toNat → ∃ l one other,
        ((m.run requests).list now 0 limit).1 = .ok l ∧
        ((m.run requests).search now query 0 limit).1 = .ok one ∧
        ((m.run requests).search now folded 0 limit).1 = .ok other ∧
        ∀ s ∈ l, f.HasUnfolded v s →
          (s ∈ one.messages ↔ negated = false) ∧ (s ∈ other.messages ↔ negated = true)) := by
  have hclosed := closed_run hopen requests
  have hsound := (Tables.Reached.session ht hopen requests).sound
  constructor
  · intro hascii offset limit
    have hkey : lowerAscii (Tag.key v).toList = lowerAscii v.toList := by
      rw [Tag.key, String.toList_ofList, lowerAscii_lower]
      exact lowerAfter_eq_lowerAscii_iff.mpr hascii
    refine search_congr hclosed now ?_ offset limit
    rw [hfolded, hquery]
    exact Search.rows?_congr hf hv hkey _ negated
  · intro hbeyond hlimits hfoldedLimits limit hlimit
    refine ⟨_, _, _, list_unlimited hclosed now hlimit,
      search_eq_pageOf hclosed now hsound hlimits 0 limit,
      search_eq_pageOf hclosed now hsound hfoldedLimits 0 limit, ?_⟩
    intro s hmem hunfolded
    obtain ⟨r, hrow, hs⟩ := List.mem_filterMap.mp hmem
    have hr := Tables.mem_newestFirst.mp hrow
    have hne : v ≠ "" := ne_empty_of_parse (hquery ▸ List.mem_singleton_self _) rfl
    have hkeyNe : Tag.key v ≠ "" := ne_empty_of_parse (hfolded ▸ List.mem_singleton_self _) rfl
    have hkey : Wildcard.IsWhole (Tag.key v).toList := by
      rw [Tag.key, String.toList_ofList]
      exact isWhole_lower hv
    obtain ⟨hmentions, hnot⟩ := hunfolded.mentions hbeyond
    rw [hquery] at hlimits ⊢
    rw [hfolded] at hfoldedLimits ⊢
    rw [Tables.messages_pageOf _ _ hlimit, Tables.messages_pageOf _ _ hlimit,
      hsound.mem_summaries_keptBy_iff hr hs, hsound.mem_summaries_keptBy_iff hr hs,
      hsound.mem_keptBy_field hf hv hne hlimits hr hs hunfolded.whole,
      hsound.mem_keptBy_field hf hkey hkeyNe hfoldedLimits hr hs hunfolded.whole]
    simp [hmentions, hnot]

theorem search_run_folded_names :
    let m := ({ config := {}, rules := ⟨[]⟩ } : Mailbox).run
      [⟨⟨1, 0⟩, .store "a" (encode "From: Bob <x@y>\nSubject: É\n\n".toList), by decide⟩]
    (m.search ⟨2, 0⟩ "from:bob" 0 (0 - 1)).1 = (m.search ⟨2, 0⟩ "from:Bob" 0 (0 - 1)).1 ∧
    ∃ l one other, (m.list ⟨2, 0⟩ 0 (0 - 1)).1 = .ok l ∧ l.length = 1 ∧
      (m.search ⟨2, 0⟩ "subject:É" 0 (0 - 1)).1 = .ok one ∧
      (m.search ⟨2, 0⟩ "subject:é" 0 (0 - 1)).1 = .ok other ∧
      ∀ s ∈ l, s ∈ one.messages ∧ s ∉ other.messages := by
  intro m
  have hopen : open? {} {} false ⟨0, 0⟩ = .ok { config := {}, rules := ⟨[]⟩ } := rfl
  have hparse : parse "from:Bob" = [⟨.field .sender "Bob", false⟩] ∧
      parse "from:bob" = [⟨.field .sender (Tag.key "Bob"), false⟩] ∧
      parse "subject:É" = [⟨.field .subject "É", false⟩] ∧
      parse "subject:é" = [⟨.field .subject (Tag.key "É"), false⟩] := by
    decide +kernel
  have hlimits : InLimits (parse "subject:É") := ⟨by decide +kernel, by decide +kernel⟩
  have hfolded : InLimits (parse "subject:é") := ⟨by decide +kernel, by decide +kernel⟩
  have hlisted : ((run { config := {}, rules := ⟨[]⟩ }
      [⟨⟨1, 0⟩, .store "a" (encode "From: Bob <x@y>\nSubject: É\n\n".toList), by decide⟩]).list
        ⟨2, 0⟩ 0 (0 - 1)).1.map (List.map fun s => Field.subject.texts s) = .ok [["É"]] := by
    decide +kernel
  have hascii : IsLoweredAsAscii "Bob".toList := by decide +kernel
  have hbeyond : ¬ IsLoweredAsAscii "É".toList := by decide +kernel
  obtain ⟨hsender, hsenderFolded, hsubject, hsubjectFolded⟩ := hparse
  constructor
  · exact (search_run_folded .empty hopen _ ⟨2, 0⟩ (Or.inl rfl) (by decide +kernel) hsender
      hsenderFolded).1 hascii 0 (0 - 1)
  · obtain ⟨l, one, other, hl, hone, hother, hfound⟩ := (search_run_folded .empty hopen _ ⟨2, 0⟩
      (Or.inr rfl) (by decide +kernel) hsubject hsubjectFolded).2 hbeyond hlimits hfolded (0 - 1)
      (by decide)
    have hsubjects : l.map (fun s => Field.subject.texts s) = [["É"]] := by
      rw [hl] at hlisted
      exact Except.ok.inj hlisted
    have hlength : l.length = 1 := by simpa using congrArg List.length hsubjects
    refine ⟨l, one, other, hl, hlength, hone, hother, fun s hs => ?_⟩
    have htexts : Field.subject.texts s = ["É"] := by
      have hmem := List.mem_map_of_mem (f := fun s => Field.subject.texts s) hs
      rw [hsubjects] at hmem
      exact List.mem_singleton.mp hmem
    obtain ⟨hin, hout⟩ := hfound s hs
      { whole := by rw [htexts]; decide +kernel
        value := by rw [htexts]; decide +kernel
        others := by rw [htexts]; decide +kernel }
    exact ⟨hin.mpr rfl, fun h => Bool.false_ne_true (hout.mp h)⟩

theorem search_run_folded_subject :
    let m := ({ config := {}, rules := ⟨[]⟩ } : Mailbox).run
      [⟨⟨1, 0⟩, .store "a" (encode "Subject: É\n\n".toList), by decide⟩]
    let found := fun query => (m.search ⟨2, 0⟩ query 0 1).1.map fun r => r.messages.map Summary.id
    Tag.key "É" = "é" ∧ found "subject:É" = .ok ["a"] ∧ found "subject:é" = .ok [] ∧
      found "É" = .ok ["a"] ∧ found "é" = .ok ["a"] := by
  decide +kernel

end Mailbox

end Letterbox
