import Letterbox.Proofs.Mailbox.Finding
import Letterbox.Proofs.Query.Tokens

namespace Letterbox

open Query Text

namespace Search

section Depth

variable (terms : List Term) {n k : Nat}

theorem foldl_depth_mono (h : n ≤ k) :
    terms.foldl (fun n term => max n (depth term) + 1) n ≤
      terms.foldl (fun n term => max n (depth term) + 1) k := by
  induction terms generalizing n k with
  | nil => exact h
  | cons term terms ih =>
    simp only [List.foldl_cons]
    exact ih (by omega)

theorem le_foldl_depth (n : Nat) :
    n ≤ terms.foldl (fun n term => max n (depth term) + 1) n := by
  induction terms generalizing n with
  | nil => exact Nat.le_refl n
  | cons term terms ih =>
    have hrest := ih (max n (depth term) + 1)
    simp only [List.foldl_cons]
    omega

end Depth

theorem totalDepth_append_le (first second : List Term) :
    totalDepth first ≤ totalDepth (first ++ second) ∧
      totalDepth second ≤ totalDepth (first ++ second) := by
  simp only [totalDepth, List.foldl_append]
  exact ⟨le_foldl_depth second _, foldl_depth_mono second (le_foldl_depth first 2)⟩

end Search

namespace Query

theorem InLimits.of_append {first second : List Term} (h : InLimits (first ++ second)) :
    InLimits first ∧ InLimits second := by
  obtain ⟨hfirst, hsecond⟩ := Search.totalDepth_append_le first second
  constructor
  · exact ⟨hfirst.trans h.depth, fun term hterm => h.length term (List.mem_append_left _ hterm)⟩
  · exact ⟨hsecond.trans h.depth, fun term hterm => h.length term (List.mem_append_right _ hterm)⟩

end Query

structure FindsCommon (one other both : SearchResults) : Prop where
  mem_iff : ∀ id, id ∈ both.messages.map Summary.id ↔
    id ∈ one.messages.map Summary.id ∧ id ∈ other.messages.map Summary.id
  narrows_one : both.messages.Sublist one.messages
  narrows_other : both.messages.Sublist other.messages

namespace Tables

variable {t : Tables}

theorem mem_keptBy_append {first second : List Term} {r : Row} :
    r ∈ t.keptBy (first ++ second) ↔ r ∈ t.keptBy first ∧ r ∈ t.keptBy second := by
  simp only [keptBy, List.all_append, List.mem_filter, Bool.and_eq_true]
  exact and_and_left

theorem keptBy_append_sublist (t : Tables) (first second : List Term) :
    (t.keptBy (first ++ second)).Sublist (t.keptBy first) := by
  have hfilter : t.keptBy (first ++ second) =
      (t.keptBy first).filter fun r => second.all (Search.holds t r) := by
    simp only [keptBy, List.all_append, List.filter_filter, Bool.and_comm]
  rw [hfilter]
  exact List.filter_sublist

theorem keptBy_perm {first second : List Term} (h : first.Perm second) :
    t.keptBy first = t.keptBy second := by
  refine List.filter_congr ?_
  intro r _
  rw [Bool.eq_iff_iff, List.all_eq_true, List.all_eq_true]
  exact forall_congr' fun term => imp_congr_left h.mem_iff

theorem Sound.mem_ids_keptBy_append (ht : t.Sound) {first second : List Term} {id : String} :
    id ∈ (t.keptBy (first ++ second)).map Row.id ↔
      id ∈ (t.keptBy first).map Row.id ∧ id ∈ (t.keptBy second).map Row.id := by
  constructor
  · intro h
    obtain ⟨r, hr, rfl⟩ := List.mem_map.mp h
    obtain ⟨hfirst, hsecond⟩ := mem_keptBy_append.mp hr
    exact ⟨List.mem_map_of_mem hfirst, List.mem_map_of_mem hsecond⟩
  · rintro ⟨hfirst, hsecond⟩
    obtain ⟨r, hr, rfl⟩ := List.mem_map.mp hfirst
    have hother := (ht.id_mem_keptBy_iff (t.keptBy_subset first r hr)).mp hsecond
    exact List.mem_map_of_mem (mem_keptBy_append.mpr ⟨hr, hother⟩)

theorem Sound.findsCommon (ht : t.Sound) (first second : List Term) {limit : UInt64}
    (hlimit : signedBound ≤ limit.toNat) :
    FindsCommon (t.pageOf first 0 limit) (t.pageOf second 0 limit)
      (t.pageOf (first ++ second) 0 limit) := by
  constructor
  case mem_iff =>
    intro id
    simp only [t.messages_pageOf _ hlimit, ht.ids_keptBy]
    exact ht.mem_ids_keptBy_append
  case narrows_one =>
    rw [t.messages_pageOf _ hlimit, t.messages_pageOf _ hlimit]
    exact (t.keptBy_append_sublist first second).filterMap _
  case narrows_other =>
    rw [t.messages_pageOf _ hlimit, t.messages_pageOf _ hlimit, keptBy_perm List.perm_append_comm]
    exact (t.keptBy_append_sublist second first).filterMap _

end Tables

namespace Mailbox

variable {m : Mailbox}

theorem search_run_conjunction {t : Tables} (ht : t.Reached) {config : Config} {webhook : Bool}
    {start : Instant} {m : Mailbox} (hopen : open? config t webhook start = .ok m)
    (requests : List Request) (now : Instant) {first : String}
    (heven : Even (first.toList.count '"')) {b : Char} (hb : isBlank b = true) (second : String) :
    parse (joined first b second) = parse first ++ parse second ∧
    (InLimits (parse (joined first b second)) →
      (∀ limit : UInt64, Tables.signedBound ≤ limit.toNat → ∃ one other both,
        ((m.run requests).search now first 0 limit).1 = .ok one ∧
        ((m.run requests).search now second 0 limit).1 = .ok other ∧
        ((m.run requests).search now (joined first b second) 0 limit).1 = .ok both ∧
        FindsCommon one other both) ∧
      ∀ reordered, (parse reordered).Perm (parse (joined first b second)) →
        InLimits (parse reordered) → ∀ offset limit : UInt64,
          ((m.run requests).search now reordered offset limit).1 =
            ((m.run requests).search now (joined first b second) offset limit).1) := by
  have hclosed := closed_run hopen requests
  have hsound := (Tables.Reached.session ht hopen requests).sound
  have hparse := parse_joined heven hb second
  refine ⟨hparse, fun hlimits => ⟨?_, ?_⟩⟩
  · intro limit hlimit
    obtain ⟨hfirst, hsecond⟩ := InLimits.of_append (hparse ▸ hlimits)
    have hboth := search_eq_pageOf hclosed now hsound hlimits 0 limit
    rw [hparse] at hboth
    exact ⟨_, _, _, search_eq_pageOf hclosed now hsound hfirst 0 limit,
      search_eq_pageOf hclosed now hsound hsecond 0 limit, hboth,
      hsound.findsCommon (parse first) (parse second) hlimit⟩
  · intro reordered hperm hreordered offset limit
    rw [search_eq_pageOf hclosed now hsound hreordered, search_eq_pageOf hclosed now hsound hlimits,
      Tables.pageOf, Tables.pageOf, Tables.keptBy_perm hperm]

theorem search_run_conjunction_quoted :
    let m := ({ config := {}, rules := ⟨[]⟩ } : Mailbox).run
      [⟨⟨1, 0⟩, .store "a" (Text.encode "From: x@y\nSubject: one two\n\n".toList), by decide⟩,
       ⟨⟨2, 0⟩, .store "b" (Text.encode "From: x@y\nSubject: two one\n\n".toList), by decide⟩]
    (∃ one other both, (m.search ⟨3, 0⟩ "\"one two\"" 0 (0 - 1)).1 = .ok one ∧
      (m.search ⟨3, 0⟩ "-is:read" 0 (0 - 1)).1 = .ok other ∧
      (m.search ⟨3, 0⟩ "\"one two\" -is:read" 0 (0 - 1)).1 = .ok both ∧
      FindsCommon one other both) ∧
    (m.search ⟨3, 0⟩ "-is:read \"one two\"" 0 1).1 =
      (m.search ⟨3, 0⟩ "\"one two\" -is:read" 0 1).1 := by
  intro m
  have hopen : open? {} {} false ⟨0, 0⟩ = .ok { config := {}, rules := ⟨[]⟩ } := rfl
  have heven : Even ("\"one two\"".toList.count '"') := by decide
  have hblank : isBlank ' ' = true := rfl
  have hlimits : InLimits (parse "\"one two\" -is:read") := ⟨by decide +kernel, by decide +kernel⟩
  have hreordered : InLimits (parse "-is:read \"one two\"") :=
    ⟨by decide +kernel, by decide +kernel⟩
  have hperm : (parse "-is:read \"one two\"").Perm (parse "\"one two\" -is:read") := by
    decide +kernel
  obtain ⟨hboth, horder⟩ :=
    (search_run_conjunction .empty hopen _ ⟨3, 0⟩ heven hblank "-is:read").2 hlimits
  exact ⟨hboth (0 - 1) (by decide), horder _ hperm hreordered 0 1⟩

end Mailbox

end Letterbox
