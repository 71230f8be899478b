import Letterbox.Proofs.Envelope.Parse
import Letterbox.Proofs.Mime.Tree
import Letterbox.Proofs.Text.Order

namespace Letterbox.Envelope

open Text

theorem infix_intercalate {α : Type} {sep w : List α} {ws : List (List α)} (hw : w ∈ ws) :
    w <:+: sep.intercalate ws := by
  induction ws with
  | nil => simp at hw
  | cons v ws ih =>
    cases ws with
    | nil =>
      obtain rfl := List.mem_singleton.mp hw
      simp
    | cons u us =>
      rw [List.intercalate_cons_cons]
      rcases List.mem_cons.mp hw with rfl | hw
      · exact ((List.prefix_append w sep).trans (List.prefix_append _ _)).isInfix
      · exact (ih hw).trans (List.suffix_append _ _).isInfix

theorem findSome?_of_find? {α β γ : Type} {f : α → Option β} (g : β → γ) {l : List α} {a : α}
    (h : l.find? (fun b => (f b).isSome) = some a) :
    l.findSome? (fun b => (f b).map g) = (f a).map g := by
  induction l with
  | nil => simp at h
  | cons b l ih =>
    rw [List.find?_cons] at h
    cases hb : f b with
    | none =>
      simp only [hb, Option.isSome_none] at h
      rw [List.findSome?_cons, hb]
      exact ih h
    | some c =>
      simp only [hb, Option.isSome_some, Option.some.injEq] at h
      rw [List.findSome?_cons, ← h, hb]
      rfl

theorem map_filterMap_sublist {α β γ : Type} {f : α → Option β} {g : β → γ} {k : α → γ}
    (h : ∀ a b, f a = some b → g b = k a) (l : List α) :
    ((l.filterMap f).map g).Sublist (l.map k) := by
  induction l with
  | nil => exact .slnil
  | cons a l ih =>
    cases ha : f a with
    | none =>
      rw [List.filterMap_cons_none ha]
      exact ih.cons _
    | some b =>
      rw [List.filterMap_cons_some ha, List.map_cons, List.map_cons, h a b ha]
      exact ih.cons_cons _

theorem addPart_parts (e : Envelope) (p : Part) : (addPart e p).parts.Perm (e.parts ++ [p]) := by
  refine List.perm_iff_count.mpr ?_
  intro q
  unfold addPart
  split
  · simp only [parts, List.count_append]
    omega
  · split
    · simp only [parts, List.count_append]
      omega
    · split
      · simp only [parts, List.count_append]
        omega
      · simp only [parts, List.count_append]
        omega

theorem foldl_addPart_parts (filed : List Part) (e : Envelope) :
    (filed.foldl addPart e).parts.Perm (e.parts ++ filed) := by
  induction filed generalizing e with
  | nil => rw [List.foldl_nil, List.append_nil]
  | cons p filed ih =>
    have hfirst := (addPart_parts e p).append_right filed
    rw [List.append_assoc, List.singleton_append] at hfirst
    exact (ih (addPart e p)).trans hfirst

theorem ofMessage_parts (m : Mime.Message) (headers : List Header.Field) :
    (ofMessage m headers).parts.Perm (partsOf m) :=
  foldl_addPart_parts (partsOf m) _

def htmlPlace? (m : Mime.Message) : Option Nat :=
  m.htmlBody.find? fun i => ((m.body? i).bind Mime.Body.html?).isSome

def isPassedOver (m : Mime.Message) (place : Nat) : Bool :=
  isBodyPlace m place && htmlPlace? m != some place &&
    !(m.textBody.contains place && ((m.body? place).bind Mime.Body.text?).isSome)

/-- That the leaf at a place is in the text, is the HTML or is one part of an envelope. -/
inductive Exposes (m : Mime.Message) (e : Envelope) (path : List Nat) (place : Nat) : Prop
  | text {t : List Char} (hbody : m.body? place = some (.text t)) (hfound : t <:+: e.text.toList)
  | html {t : List Char} (hbody : m.body? place = some (.html t)) (hsame : e.html = String.ofList t)
  | part {p : Mime.Part} (hpart : m.parts[place]? = some p)
      (hone : (e.parts.filter fun q => q.partId == Mime.Tree.identifier path) =
        [partOf (Mime.Tree.identifier path) p])

structure Replaces (m : Mime.Message) (e : Envelope) (place : Nat) : Prop where
  listed : place ∈ m.textBody
  plain : ∃ t, m.body? place = some (.text t)
  blank : ∀ i ∈ m.textBody, ∀ t, m.body? i = some (.text t) → allBlank t = true
  html : e.html ≠ ""
  text : e.text = Html.toText e.html

variable {m : Mime.Message} {path : List Nat} {place : Nat}

theorem infix_textOf {t : List Char} (hmem : place ∈ m.textBody)
    (hbody : m.body? place = some (.text t)) : t <:+: (textOf m).toList := by
  rw [textOf, String.toList_intercalate]
  refine infix_intercalate (List.mem_map.mpr ⟨ofChars t, ?_, String.toList_ofList⟩)
  exact List.mem_filterMap.mpr ⟨place, hmem, by rw [hbody]; rfl⟩

theorem allBlank_of_infix {s t : List Char} (h : t <:+: s) (hs : allBlank s = true) :
    allBlank t = true := by
  rw [allBlank, List.all_eq_true] at hs ⊢
  intro c hc
  exact hs c (h.subset hc)

theorem htmlOf_of_htmlPlace? (h : htmlPlace? m = some place) :
    ∃ t, m.body? place = some (.html t) ∧ htmlOf m = String.ofList t := by
  unfold htmlPlace? at h
  have hsome := List.find?_some h
  obtain ⟨t, ht⟩ := Option.isSome_iff_exists.mp hsome
  obtain ⟨b, hb, hbt⟩ := Option.bind_eq_some_iff.mp ht
  refine ⟨t, ?_, ?_⟩
  · cases b with
    | html t' => rw [hb, ← Option.some.inj hbt]
    | _ => cases hbt
  · rw [htmlOf, findSome?_of_find? ofChars h, ht]
    rfl

theorem partsOf_ids (m : Mime.Message) : ((partsOf m).map Part.partId).Nodup := by
  refine m.tree.nodup_identifiers.sublist (map_filterMap_sublist ?_ m.tree.leaves)
  rintro ⟨path, place⟩ p hp
  dsimp only at hp
  split at hp
  · cases hp
  · obtain ⟨q, -, rfl⟩ := Option.map_eq_some_iff.mp hp
    rfl

theorem mem_partsOf (hleaf : (path, place) ∈ m.tree.leaves) (hbody : isBodyPlace m place = false)
    {p : Mime.Part} (hp : m.parts[place]? = some p) :
    partOf (Mime.Tree.identifier path) p ∈ partsOf m :=
  List.mem_filterMap.mpr ⟨(path, place), hleaf, by simp [hbody, hp]⟩

theorem isBodyPlace_cases (h : isBodyPlace m place = true) :
    (∃ t, m.body? place = some (.text t)) ∨ ∃ t, m.body? place = some (.html t) := by
  rw [isBodyPlace, Bool.and_eq_true] at h
  cases hbody : m.body? place with
  | none => simp [hbody] at h
  | some b =>
    cases b with
    | text t => exact Or.inl ⟨t, rfl⟩
    | html t => exact Or.inr ⟨t, rfl⟩
    | _ => simp [hbody, Mime.Body.text?, Mime.Body.html?] at h

theorem exposes_part (headers : List Header.Field) (hleaf : (path, place) ∈ m.tree.leaves)
    (hbody : isBodyPlace m place = false) : Exposes m (ofMessage m headers) path place := by
  obtain ⟨p, hp⟩ := Mime.Message.exists_part_of_mem_leaves hleaf
  refine .part hp ?_
  have hone := Text.filter_eq_singleton (partsOf_ids m) (mem_partsOf hleaf hbody hp)
  have hperm := (ofMessage_parts m headers).filter fun q =>
    q.partId == Mime.Tree.identifier path
  exact List.perm_singleton.mp (hperm.trans (List.Perm.of_eq hone))

theorem exposes_text (headers : List Header.Field) {t : List Char} (hmem : place ∈ m.textBody)
    (hbody : m.body? place = some (.text t)) :
    Exposes m (ofMessage m headers) path place ∨ Replaces m (ofMessage m headers) place := by
  have hinfix := infix_textOf hmem hbody
  have htext := ofMessage_text m headers
  split at htext
  · rename_i hblank
    rw [Bool.and_eq_true, Bool.not_eq_true', ← ofMessage_html m headers] at hblank
    right
    constructor
    case listed => exact hmem
    case plain => exact ⟨t, hbody⟩
    case blank =>
      intro i hi t' ht'
      exact allBlank_of_infix (infix_textOf hi ht') hblank.1
    case html => simpa using hblank.2
    case text => rw [htext, ofMessage_html]
  · exact Or.inl (.text hbody (htext ▸ hinfix))

theorem exposes_html (headers : List Header.Field) (h : htmlPlace? m = some place) :
    Exposes m (ofMessage m headers) path place := by
  obtain ⟨t, hbody, hhtml⟩ := htmlOf_of_htmlPlace? h
  exact .html hbody ((ofMessage_html m headers).trans hhtml)

theorem exposes_leaf (m : Mime.Message) (headers : List Header.Field) {path : List Nat}
    {place : Nat} (hleaf : (path, place) ∈ m.tree.leaves) (hnot : isPassedOver m place = false) :
    Exposes m (ofMessage m headers) path place ∨ Replaces m (ofMessage m headers) place := by
  cases hplace : isBodyPlace m place with
  | false => exact Or.inl (exposes_part headers hleaf hplace)
  | true =>
    rcases isBodyPlace_cases hplace with ⟨t, hbody⟩ | ⟨t, hbody⟩
    · have hother : htmlPlace? m ≠ some place := by
        intro h
        obtain ⟨t', hhtml, -⟩ := htmlOf_of_htmlPlace? h
        rw [hbody] at hhtml
        cases hhtml
      have hmem : place ∈ m.textBody := by
        simpa [isPassedOver, hplace, hother, hbody, Mime.Body.text?] using hnot
      exact exposes_text headers hmem hbody
    · have hfirst : htmlPlace? m = some place := by
        simpa [isPassedOver, hplace, hbody, Mime.Body.text?] using hnot
      exact Or.inl (exposes_html headers hfirst)

theorem exposes_leaf_attached :
    let m : Mime.Message :=
      { parts := [⟨[], .multipart [1, 2, 3]⟩, ⟨[], .text ['a']⟩, ⟨[], .html ['b']⟩,
          ⟨[], .binary [7]⟩]
        textBody := [1]
        htmlBody := [2] }
    (Exposes m (ofMessage m []) [1] 1 ∨ Replaces m (ofMessage m []) 1) ∧
      (Exposes m (ofMessage m []) [3] 3 ∨ Replaces m (ofMessage m []) 3) :=
  ⟨exposes_leaf _ [] (by decide) (by decide), exposes_leaf _ [] (by decide) (by decide)⟩

theorem exposes_leaf_blank :
    let m : Mime.Message :=
      { parts := [⟨[], .multipart [1, 2, 3]⟩, ⟨[], .text [' ']⟩, ⟨[], .html ['o', 'n', 'e']⟩,
          ⟨[], .html ['t', 'w', 'o']⟩]
        textBody := [1, 2, 3]
        htmlBody := [1, 2, 3] }
    m.tree.leaves = [([1], 1), ([2], 2), ([3], 3)] ∧ ¬ Exposes m (ofMessage m []) [1] 1 ∧
      ¬ Exposes m (ofMessage m []) [3] 3 := by
  intro m
  have htext : (ofMessage m []).text = "one" := by decide +kernel
  have hhtml : (ofMessage m []).html = "one" := by decide +kernel
  have hparts : (ofMessage m []).parts = [] := by decide +kernel
  refine ⟨by decide, ?_, ?_⟩
  · rintro (⟨hbody, hfound⟩ | ⟨hbody, -⟩ | ⟨-, hone⟩)
    · cases hbody
      rw [htext] at hfound
      revert hfound
      decide
    · cases hbody
    · rw [hparts] at hone
      cases hone
  · rintro (⟨hbody, -⟩ | ⟨hbody, hsame⟩ | ⟨-, hone⟩)
    · cases hbody
    · cases hbody
      rw [hhtml] at hsame
      revert hsame
      decide
    · rw [hparts] at hone
      cases hone

end Letterbox.Envelope
