import Letterbox.Proofs.Mailbox.Planning
import Letterbox.Proofs.Mailbox.Shelf

namespace Letterbox

section Sorting

variable {α : Type} {le : α → α → Bool}

theorem append_unique {q : α → Bool} {l₁ l₂ k₁ k₂ : List α} (h : l₁ ++ l₂ = k₁ ++ k₂)
    (hl₁ : ∀ a ∈ l₁, q a = true) (hl₂ : ∀ a ∈ l₂, q a = false) (hk₁ : ∀ a ∈ k₁, q a = true)
    (hk₂ : ∀ a ∈ k₂, q a = false) : l₁ = k₁ ∧ l₂ = k₂ := by
  have hfirst (u v : List α) (hu : ∀ a ∈ u, q a = true) (hv : ∀ a ∈ v, q a = false) :
      (u ++ v).filter q = u := by
    rw [List.filter_append, List.filter_eq_self.mpr hu,
      List.filter_eq_nil_iff.mpr (by simpa using hv), List.append_nil]
  have heq : l₁ = k₁ := by rw [← hfirst l₁ l₂ hl₁ hl₂, h, hfirst k₁ k₂ hk₁ hk₂]
  exact ⟨heq, List.append_cancel_left (heq ▸ h)⟩

variable (htrans : ∀ a b c, le a b = true → le b c = true → le a c = true)
  (htotal : ∀ a b, (le a b || le b a) = true)

include htrans htotal

theorem mergeSort_cons_split (a : α) (l : List α) :
    ∃ l₁ l₂, (a :: l).mergeSort le = l₁ ++ a :: l₂ ∧ l.mergeSort le = l₁ ++ l₂ ∧
      (∀ b ∈ l₁, (!le a b) = true) ∧ ∀ b ∈ l₂, (!le a b) = false := by
  obtain ⟨l₁, l₂, hcons, hrest, hbefore⟩ := List.mergeSort_cons htrans htotal a l
  have hsorted := List.pairwise_mergeSort htrans htotal (a :: l)
  rw [hcons] at hsorted
  have hafter := (List.pairwise_cons.mp (List.pairwise_append.mp hsorted).2.1).1
  exact ⟨l₁, l₂, hcons, hrest, hbefore, fun b hb => by rw [hafter b hb]; rfl⟩

theorem mergeSort_filter (p : α → Bool) (l : List α) :
    (l.filter p).mergeSort le = (l.mergeSort le).filter p := by
  induction l with
  | nil => simp
  | cons a l ih =>
    obtain ⟨l₁, l₂, hcons, hrest, hl₁, hl₂⟩ := mergeSort_cons_split htrans htotal a l
    rw [hrest, List.filter_append] at ih
    rw [hcons, List.filter_append]
    cases hp : p a with
    | false =>
      rw [List.filter_cons_of_neg (by simp [hp]), List.filter_cons_of_neg (by simp [hp]), ih]
    | true =>
      obtain ⟨k₁, k₂, hcons', hrest', hk₁, hk₂⟩ :=
        mergeSort_cons_split htrans htotal a (l.filter p)
      obtain ⟨heq₁, heq₂⟩ := append_unique (hrest'.symm.trans ih) hk₁ hk₂
        (fun b hb => hl₁ b (List.mem_of_mem_filter hb))
        (fun b hb => hl₂ b (List.mem_of_mem_filter hb))
      rw [List.filter_cons_of_pos hp, List.filter_cons_of_pos hp, hcons', heq₁, heq₂]

theorem pairwise_mergeSort_stable (l : List α) :
    (l.mergeSort le).Pairwise fun a b => le a b = true ∧ (le b a = true → [a, b].Sublist l) := by
  induction l with
  | nil => simp
  | cons a l ih =>
    obtain ⟨l₁, l₂, hcons, hrest, hl₁, hl₂⟩ := mergeSort_cons_split htrans htotal a l
    have hlater : (l₁ ++ l₂).Pairwise fun b c =>
        le b c = true ∧ (le c b = true → [b, c].Sublist (a :: l)) := by
      rw [← hrest]
      exact ih.imp fun h => ⟨h.1, fun hle => (h.2 hle).cons a⟩
    rw [List.pairwise_append] at hlater
    rw [hcons, List.pairwise_append, List.pairwise_cons]
    refine ⟨hlater.1, ⟨?_, hlater.2.1⟩, ?_⟩
    · intro b hb
      have hsorted : b ∈ l.mergeSort le := hrest ▸ List.mem_append_right l₁ hb
      have hmem : b ∈ l := List.mem_mergeSort.mp hsorted
      have hle : le a b = true := by simpa using hl₂ b hb
      exact ⟨hle, fun _ => (List.singleton_sublist.mpr hmem).cons_cons a⟩
    · intro b hb c hc
      rcases List.mem_cons.mp hc with rfl | hc
      · have hnot : le c b = false := by simpa using hl₁ b hb
        have hle : le b c = true := by simpa [hnot] using htotal b c
        exact ⟨hle, fun h => by simp [hnot] at h⟩
      · exact hlater.2.2 b hb c hc

end Sorting

def Row.bare (id : String) (created : Int) (metadata : Document) : Row :=
  { id, messageId := "", created, subject := "", metadata, size := 6, inlineCount := 0
    attachmentCount := 0, searchText := "", snippet := none, read := false }

def Mailbox.holding (rows : List Row) : Mailbox :=
  { config := {}, rules := ⟨[]⟩, tables := { messages := rows } }

namespace Tables

structure Shows (t : Tables) (r : Row) (s : Summary) : Prop where
  id : s.id = r.id
  messageId : s.messageId = r.messageId
  metadata : r.metadata = .json s.parties.toJson
  subject : s.subject = r.subject
  created : s.created.millis = r.created
  inlineCount : s.inlineCount = r.inlineCount
  attachmentCount : s.attachmentCount = r.attachmentCount
  read : s.read = r.read
  tags : s.tags = t.tagsOf r.id

theorem summary?_of_describes (t : Tables) {r : Row} {p : String × Bytes} (h : r.Describes p) :
    ∃ s, t.summary? r = some s ∧ t.Shows r s := by
  obtain ⟨parties, hparties⟩ := h.metadata
  have hread : r.metadata.parties? = some parties := by
    rw [hparties, Document.parties?, Parties.ofJson?_toJson]
  refine ⟨_, by rw [summary?, hread]; rfl, ?_⟩
  exact {
    id := rfl
    messageId := rfl
    metadata := hparties
    subject := rfl
    created := h.millis_createdAt
    inlineCount := rfl
    attachmentCount := rfl
    read := rfl
    tags := rfl }

theorem Shelved.exists_shows {t : Tables} (ht : t.Shelved) {r : Row} (hr : r ∈ t.messages) :
    ∃ s, t.summary? r = some s ∧ t.Shows r s := by
  obtain ⟨p, -, hrp⟩ := mem_of_describes ht.described hr
  exact summary?_of_describes t hrp

theorem Shelved.shows {t : Tables} (ht : t.Shelved) {rows : List Row}
    (hrows : ∀ r ∈ rows, r ∈ t.messages) : List.Forall₂ t.Shows rows (t.summaries rows) := by
  induction rows with
  | nil => exact .nil
  | cons r rows ih =>
    obtain ⟨s, hs, hshows⟩ := ht.exists_shows (hrows r (by simp))
    rw [summaries, List.filterMap_cons_some hs]
    exact .cons hshows (ih fun r' hr' => hrows r' (by simp [hr']))

theorem map_of_forall₂ {R : Row → Summary → Prop} {rows : List Row} {l : List Summary}
    (h : List.Forall₂ R rows l) {α : Type} {f : Summary → α} {g : Row → α}
    (hfield : ∀ r s, R r s → f s = g r) : l.map f = rows.map g := by
  induction h with
  | nil => rfl
  | cons hrs _ ih => rw [List.map_cons, List.map_cons, hfield _ _ hrs, ih]

theorem summaries_filter {t : Tables} {rows : List Row} {p : Row → Bool} {q : Summary → Bool}
    (h : ∀ r ∈ rows, ∃ s, t.summary? r = some s ∧ p r = q s) :
    t.summaries (rows.filter p) = (t.summaries rows).filter q := by
  induction rows with
  | nil => rfl
  | cons r rows ih =>
    obtain ⟨s, hs, hpq⟩ := h r (by simp)
    have hrest := ih fun r' hr' => h r' (by simp [hr'])
    have hcons (l : List Row) : t.summaries (r :: l) = s :: t.summaries l :=
      List.filterMap_cons_some hs
    cases hq : q s with
    | false => rw [List.filter_cons_of_neg (by simp [hpq, hq]), hcons, hrest,
        List.filter_cons_of_neg (by simp [hq])]
    | true => rw [List.filter_cons_of_pos (by simp [hpq, hq]), hcons, hcons, hrest,
        List.filter_cons_of_pos hq]

theorem newestFirst_perm (t : Tables) : t.newestFirst.Perm t.messages :=
  List.mergeSort_perm _ _

theorem newestFirst_of_pairwise {t : Tables}
    (h : t.messages.Pairwise fun a b => b.created ≤ a.created) : t.newestFirst = t.messages :=
  List.mergeSort_of_pairwise (h.imp decide_eq_true)

theorem newer_trans (a b c : Row) (hab : decide (b.created ≤ a.created) = true)
    (hbc : decide (c.created ≤ b.created) = true) : decide (c.created ≤ a.created) = true := by
  simp only [decide_eq_true_eq] at hab hbc ⊢
  omega

theorem newer_total (a b : Row) :
    (decide (b.created ≤ a.created) || decide (a.created ≤ b.created)) = true := by
  simp only [Bool.or_eq_true, decide_eq_true_eq]
  omega

theorem newestFirst_filter (t : Tables) (p : Row → Bool) :
    { t with messages := t.messages.filter p }.newestFirst = t.newestFirst.filter p :=
  mergeSort_filter newer_trans newer_total p t.messages

theorem mem_newestFirst {t : Tables} {r : Row} : r ∈ t.newestFirst ↔ r ∈ t.messages :=
  t.newestFirst_perm.mem_iff

theorem page_unlimited {α : Type} (l : List α) {limit : UInt64}
    (hlimit : signedBound ≤ limit.toNat) : page 0 limit l = l := by
  have hnot : ¬ limit.toNat < signedBound := Nat.not_lt.mpr hlimit
  have hzero : (0 : UInt64).toNat < signedBound := by decide
  rw [page, if_pos hzero, if_neg hnot]
  rfl

theorem page_sublist {α : Type} (offset limit : UInt64) (l : List α) :
    (page offset limit l).Sublist l := by
  have hrest : (if offset.toNat < signedBound then l.drop offset.toNat else l).Sublist l := by
    split
    · exact List.drop_sublist _ l
    · exact List.Sublist.refl l
  unfold page
  dsimp only
  split
  · exact (List.take_sublist _ _).trans hrest
  · exact hrest

theorem summary?_id {t : Tables} {r : Row} {s : Summary} (h : t.summary? r = some s) :
    s.id = r.id := by
  obtain ⟨parties, -, rfl⟩ := Option.map_eq_some_iff.mp h
  rfl

theorem summary?_tags {t : Tables} {r : Row} {s : Summary} (h : t.summary? r = some s) :
    s.tags = t.tagsOf r.id := by
  obtain ⟨parties, -, rfl⟩ := Option.map_eq_some_iff.mp h
  rfl

theorem mem_summaries_newestFirst {t : Tables} {s : Summary} :
    s ∈ t.summaries t.newestFirst ↔ ∃ r ∈ t.messages, t.summary? r = some s := by
  simp only [summaries, List.mem_filterMap, mem_newestFirst]

theorem mem_of_sublist {t : Tables} {rows : List Row} (h : rows.Sublist t.newestFirst) :
    ∀ r ∈ rows, r ∈ t.messages := by
  intro r hr
  exact mem_newestFirst.mp (h.subset hr)

theorem list_unlimited (t : Tables) {limit : UInt64} (hlimit : signedBound ≤ limit.toNat) :
    t.list 0 limit = t.summaries t.newestFirst := by
  rw [list, page_unlimited _ hlimit]

theorem Shelved.shows_newestFirst {t : Tables} (ht : t.Shelved) :
    List.Forall₂ t.Shows t.newestFirst (t.summaries t.newestFirst) :=
  ht.shows fun _ hr => mem_newestFirst.mp hr

theorem Shelved.ids_perm {t : Tables} (ht : t.Shelved) :
    ((t.summaries t.newestFirst).map Summary.id).Perm (t.messages.map Row.id) := by
  rw [map_of_forall₂ ht.shows_newestFirst fun _ _ h => h.id]
  exact t.newestFirst_perm.map Row.id

theorem Shelved.length_summaries {t : Tables} (ht : t.Shelved) :
    (t.summaries t.newestFirst).length = t.messages.length :=
  ht.shows_newestFirst.length_eq.symm.trans t.newestFirst_perm.length_eq

end Tables

end Letterbox
