import Letterbox.Proofs.Mailbox.Outcome
import Letterbox.Proofs.Mailbox.Searching

namespace Letterbox

def Row.isReadable (r : Row) : Bool :=
  r.metadata.parties?.isSome

def Reaches {α : Type} (goesOn stops : α → Prop) (l : List α) : Prop :=
  ∃ before a after, l = before ++ a :: after ∧ (∀ b ∈ before, goesOn b) ∧ stops a

section Reaches

variable {α : Type} {goesOn stops : α → Prop}

theorem not_reaches_nil : ¬ Reaches goesOn stops [] := by
  rintro ⟨before, a, after, heq, -⟩
  cases before <;> cases heq

theorem reaches_cons {a : α} {l : List α} :
    Reaches goesOn stops (a :: l) ↔ stops a ∨ (goesOn a ∧ Reaches goesOn stops l) := by
  constructor
  · rintro ⟨before, b, after, heq, hbefore, hb⟩
    cases before with
    | nil =>
      cases heq
      exact Or.inl hb
    | cons c before =>
      cases heq
      obtain ⟨hc, hrest⟩ := List.forall_mem_cons.mp hbefore
      exact Or.inr ⟨hc, before, b, after, rfl, hrest, hb⟩
  · rintro (ha | ⟨ha, before, b, after, rfl, hbefore, hb⟩)
    · exact ⟨[], a, l, rfl, by simp, ha⟩
    · exact ⟨a :: before, b, after, rfl, List.forall_mem_cons.mpr ⟨ha, hbefore⟩, hb⟩

theorem Reaches.exists_mem {l : List α} (h : Reaches goesOn stops l) : ∃ a ∈ l, stops a := by
  obtain ⟨before, a, after, rfl, -, ha⟩ := h
  exact ⟨a, by simp, ha⟩

end Reaches

namespace Query

def Field.isAddress : Field → Bool
  | .subject => false
  | .messageId => false
  | .tag => false
  | _ => true

def Field.lists : Field → List String
  | .recipient => ["to"]
  | .copy => ["cc"]
  | .blindCopy => ["bcc"]
  | .replyTo => ["reply_to"]
  | .addressed => ["to", "cc", "bcc"]
  | _ => []

end Query

namespace Search

open Query Text

def finds (v : List Char) (texts : List (List Char)) : Bool :=
  texts.any (Wildcard.matches? (Wildcard.containing v))

def lacks (v : List Char) (item : Json) : Prop :=
  ∃ texts, itemTexts? item = .ok texts ∧ finds v texts = false

def isStray (item : Json) : Prop :=
  ∃ s, Json.Relaxed.reread item = .string s ∧ Json.Relaxed.parse? s = none

def items (f : Field) (metadata : Json) : List Json :=
  f.lists.flatMap fun name => listed name metadata

/-- Whether it cannot be told of metadata if it satisfies a condition. -/
def Unreadable : Condition → Document → Prop
  | .field f v, d =>
    match d.column? with
    | none => f.isAddress = true
    | some m => Reaches (lacks v.toList) isStray (items f m)
  | _, _ => False

def Blocks (t : Tables) (terms : List Term) (r : Row) : Prop :=
  ∃ planned, plan false terms = some planned ∧
    Reaches (fun term => holds t r term = true) (fun term => Unreadable term.condition r.metadata)
      planned

def FailsIf (P : Prop) (x : Except Unsearchable Bool) : Prop :=
  (P → x = .error .unreadableMetadata) ∧ (¬ P → ∃ b, x = .ok b)

theorem failsIf_of_ok {P : Prop} {b : Bool} (hP : ¬ P) : FailsIf P (.ok b) :=
  ⟨fun h => absurd h hP, fun _ => ⟨b, rfl⟩⟩

theorem FailsIf.cases {P : Prop} {x : Except Unsearchable Bool} (h : FailsIf P x) :
    (P ∧ x = .error .unreadableMetadata) ∨ (¬ P ∧ ∃ b, x = .ok b) := by
  by_cases hP : P
  · exact Or.inl ⟨hP, h.1 hP⟩
  · exact Or.inr ⟨hP, h.2 hP⟩

theorem itemTexts?_cases (item : Json) :
    (isStray item ∧ itemTexts? item = .error .unreadableMetadata) ∨
      (¬ isStray item ∧ ∃ texts, itemTexts? item = .ok texts) := by
  unfold itemTexts? isStray
  generalize Json.Relaxed.reread item = read
  cases read with
  | string s =>
    cases hs : Json.Relaxed.parse? s with
    | none => exact Or.inl ⟨⟨s, rfl, hs⟩, by simp [hs]⟩
    | some v => exact Or.inr ⟨by rintro ⟨s', ⟨⟩, hs'⟩; simp [hs'] at hs, _, by simp [hs]; rfl⟩
  | _ => exact Or.inr ⟨by rintro ⟨s, ⟨⟩, -⟩, _, rfl⟩

theorem anyItem?_append (v : List Char) (l k : List Json) :
    anyItem? v (l ++ k) = (anyItem? v l).bind fun b => if b then .ok true else anyItem? v k := by
  induction l with
  | nil => rfl
  | cons item l ih =>
    rw [List.cons_append, anyItem?, anyItem?, ih]
    cases itemTexts? item with
    | error => rfl
    | ok texts =>
      simp only [bind, Except.bind]
      cases anyContains? v texts with
      | error => rfl
      | ok b => cases b <;> rfl

theorem anyListed?_eq_anyItem? (v : List Char) (metadata : Json) (names : List String) :
    anyListed? v metadata names = anyItem? v (names.flatMap fun name => listed name metadata) := by
  induction names with
  | nil => rfl
  | cons name names ih =>
    rw [anyListed?, ih, List.flatMap_cons, anyItem?_append]
    rfl

section Values

variable {v : List Char} (hshort : Wildcard.isTooLong (Wildcard.containing v) = false)

include hshort

theorem contains?_of_short (text : List Char) :
    contains? v text = .ok (Wildcard.matches? (Wildcard.containing v) text) := by
  simp only [contains?, hshort, Bool.false_eq_true, if_false]

theorem anyContains?_of_short (texts : List (List Char)) :
    anyContains? v texts = .ok (finds v texts) := by
  induction texts with
  | nil => rfl
  | cons text texts ih =>
    have hcons : finds v (text :: texts) =
        (Wildcard.matches? (Wildcard.containing v) text || finds v texts) := List.any_cons
    rw [anyContains?, contains?_of_short hshort, ih, hcons]
    cases Wildcard.matches? (Wildcard.containing v) text <;> rfl

theorem failsIf_anyItem? (l : List Json) :
    FailsIf (Reaches (lacks v) isStray l) (anyItem? v l) := by
  induction l with
  | nil => exact failsIf_of_ok not_reaches_nil
  | cons item l ih =>
    rw [reaches_cons, anyItem?]
    rcases itemTexts?_cases item with ⟨hstray, htexts⟩ | ⟨hstray, texts, htexts⟩
    · rw [htexts]
      exact ⟨fun _ => rfl, fun hnot => absurd (Or.inl hstray) hnot⟩
    · rw [htexts]
      simp only [bind, Except.bind, anyContains?_of_short hshort, hstray, false_or]
      cases hfinds : finds v texts with
      | true =>
        refine failsIf_of_ok ?_
        rintro ⟨⟨texts', htexts', hlacks⟩, -⟩
        rw [htexts, Except.ok.injEq] at htexts'
        simp [← htexts', hfinds] at hlacks
      | false =>
        have hlacks : lacks v item := ⟨texts, htexts, hfinds⟩
        simpa only [hlacks, true_and, Bool.false_eq_true, if_false] using ih

end Values

variable {t : Tables} {r : Row}

theorem lists_of_not_address {f : Field} (hf : f.isAddress = false) : f.lists = [] := by
  cases f <;> first | rfl | cases hf

theorem not_unreadable_of_not_address {f : Field} (hf : f.isAddress = false) (v : String)
    (d : Document) : ¬ Unreadable (.field f v) d := by
  rw [Unreadable]
  cases d.column? with
  | none => simp [hf]
  | some m => simp [items, lists_of_not_address hf, not_reaches_nil]

theorem failsIf_listed {f : Field} {value : String}
    (hshort : Wildcard.isTooLong (Wildcard.containing value.toList) = false)
    (haddress : f.isAddress = true)
    (hfield : fieldHolds? t r f value =
      withMetadata r fun m => anyListed? value.toList m f.lists) :
    FailsIf (Unreadable (.field f value) r.metadata) (fieldHolds? t r f value) := by
  rw [hfield, withMetadata, Unreadable]
  cases r.metadata.column? with
  | none => exact ⟨fun _ => rfl, fun hnot => absurd haddress hnot⟩
  | some m =>
    dsimp only
    rw [anyListed?_eq_anyItem?]
    exact failsIf_anyItem? hshort _

theorem failsIf_condition {c : Condition}
    (hshort : ∀ v ∈ c.sought?, Wildcard.isTooLong (Wildcard.containing v) = false) :
    FailsIf (Unreadable c r.metadata) (conditionHolds? t r c) := by
  cases c with
  | text value =>
    rw [conditionHolds?, anyContains?_of_short (hshort _ rfl)]
    exact failsIf_of_ok id
  | flag flag => exact failsIf_of_ok id
  | date side d => cases side <;> exact failsIf_of_ok id
  | field f value =>
    rw [conditionHolds?]
    cases f with
    | sender =>
      rw [fieldHolds?, withMetadata, Unreadable]
      cases r.metadata.column? with
      | none => exact ⟨fun _ => rfl, fun hnot => absurd rfl hnot⟩
      | some m =>
        simp only [senderHas?, anyContains?_of_short (hshort _ rfl)]
        exact failsIf_of_ok not_reaches_nil
    | recipient => exact failsIf_listed (hshort _ rfl) rfl rfl
    | copy => exact failsIf_listed (hshort _ rfl) rfl rfl
    | blindCopy => exact failsIf_listed (hshort _ rfl) rfl rfl
    | replyTo => exact failsIf_listed (hshort _ rfl) rfl rfl
    | addressed => exact failsIf_listed (hshort _ rfl) rfl rfl
    | subject =>
      rw [fieldHolds?, contains?_of_short (hshort _ rfl)]
      exact failsIf_of_ok (not_unreadable_of_not_address rfl _ _)
    | messageId => exact failsIf_of_ok (not_unreadable_of_not_address rfl _ _)
    | tag => exact failsIf_of_ok (not_unreadable_of_not_address rfl _ _)

theorem allHold?_eq_of_short {terms : List Term}
    (hshort : ∀ term ∈ terms, ∀ v ∈ term.condition.sought?,
      Wildcard.isTooLong (Wildcard.containing v) = false) :
    (Reaches (fun term => holds t r term = true)
        (fun term => Unreadable term.condition r.metadata) terms →
      allHold? t r terms = .error .unreadableMetadata) ∧
    (¬ Reaches (fun term => holds t r term = true)
        (fun term => Unreadable term.condition r.metadata) terms →
      allHold? t r terms = .ok (terms.all (holds t r))) := by
  induction terms with
  | nil => exact ⟨fun h => absurd h not_reaches_nil, fun _ => rfl⟩
  | cons term terms ih =>
    have hrest := ih fun term' hterm' => hshort term' (by simp [hterm'])
    rw [reaches_cons, allHold?, List.all_cons]
    rcases (failsIf_condition (hshort term (by simp))).cases with
      ⟨hfails, hcondition⟩ | ⟨hfails, b, hcondition⟩
    · rw [hcondition]
      exact ⟨fun _ => rfl, fun hnot => absurd (Or.inl hfails) hnot⟩
    · have hholds : holds t r term = (b != term.negated) := by rw [holds, hcondition]
      rw [hcondition, hholds]
      simp only [hfails, false_or, bind, Except.bind]
      cases hb : b != term.negated with
      | true => simpa using hrest
      | false => simp [pure, Except.pure]

section Terms

variable {terms planned : List Term} (hlimits : InLimits terms)

include hlimits

theorem failsIf_planned (hplan : plan false terms = some planned) :
    FailsIf (Blocks t terms r) (allHold? t r planned) := by
  have hblocks : Blocks t terms r ↔ Reaches (fun term => holds t r term = true)
      (fun term => Unreadable term.condition r.metadata) planned := by
    constructor
    · rintro ⟨planned', hplan', hreaches⟩
      rw [hplan, Option.some.injEq] at hplan'
      exact hplan' ▸ hreaches
    · exact fun hreaches => ⟨planned, hplan, hreaches⟩
  have hshort : ∀ term ∈ planned, ∀ v ∈ term.condition.sought?,
      Wildcard.isTooLong (Wildcard.containing v) = false :=
    fun term hterm => hlimits.length term (mem_of_plan hplan hterm)
  have hall := allHold?_eq_of_short (t := t) (r := r) hshort
  exact ⟨fun h => hall.1 (hblocks.mp h), fun h => ⟨_, hall.2 fun hr => h (hblocks.mpr hr)⟩⟩

theorem rows?_of_not_blocks (h : ∀ r ∈ t.messages, ¬ Blocks t terms r) :
    rows? t false none terms = .ok (t.newestFirst.filter fun r => terms.all (holds t r)) :=
  rows?_of_allHold? hlimits.depth fun _ hplan r hr =>
    (failsIf_planned hlimits hplan).2 (h r (Tables.mem_newestFirst.mp hr))

end Terms

variable {terms : List Term}

theorem not_blocks_of_readable (h : ∀ term ∈ terms, ¬ Unreadable term.condition r.metadata) :
    ¬ Blocks t terms r := by
  rintro ⟨planned, hplan, hreaches⟩
  obtain ⟨term, hterm, hunreadable⟩ := hreaches.exists_mem
  exact h term (mem_of_plan hplan hterm) hunreadable

theorem mem_items_toJson {f : Field} {p : Parties} {item : Json} (h : item ∈ items f p.toJson) :
    ∃ a : Address, item = a.toJson := by
  have hlisted {name : String} (hname : name ∈ f.lists) :
      ∃ l : List Address, listed name p.toJson = l.map Address.toJson := by
    cases f <;> simp only [Field.lists, List.mem_cons, List.not_mem_nil, or_false] at hname
    case recipient => exact hname ▸ ⟨p.recipients, rfl⟩
    case copy => exact hname ▸ ⟨p.copies, rfl⟩
    case blindCopy => exact hname ▸ ⟨p.blindCopies, rfl⟩
    case replyTo => exact hname ▸ ⟨p.replyTo, rfl⟩
    case addressed =>
      rcases hname with rfl | rfl | rfl
      · exact ⟨p.recipients, rfl⟩
      · exact ⟨p.copies, rfl⟩
      · exact ⟨p.blindCopies, rfl⟩
  obtain ⟨name, hname, hmem⟩ := List.mem_flatMap.mp h
  obtain ⟨l, hl⟩ := hlisted hname
  rw [hl] at hmem
  obtain ⟨a, -, ha⟩ := List.mem_map.mp hmem
  exact ⟨a, ha.symm⟩

theorem not_isStray_address (a : Address) : ¬ isStray a.toJson := by
  rintro ⟨s, hs, -⟩
  cases hs

theorem not_unreadable_toJson (p : Parties) (c : Condition) : ¬ Unreadable c (.json p.toJson) := by
  cases c with
  | field f v =>
    rw [Unreadable, column?_toJson]
    intro hreaches
    obtain ⟨item, hitem, hstray⟩ := hreaches.exists_mem
    obtain ⟨a, rfl⟩ := mem_items_toJson hitem
    exact not_isStray_address a hstray
  | _ => exact id

end Search

namespace Tables

open Query

theorem isSome_summary? (t : Tables) (r : Row) : (t.summary? r).isSome = r.isReadable :=
  Option.isSome_map

section Damaged

variable {t : Tables} {query : String} (hlimits : InLimits (parse query)) {limit : UInt64}
  (hlimit : signedBound ≤ limit.toNat)

include hlimits

theorem matching?_of_not_blocks (h : ∀ r ∈ t.messages, ¬ Search.Blocks t (parse query) r) :
    t.matching? query =
      .ok (t.newestFirst.filter fun r => (parse query).all (Search.holds t r)) := by
  rw [matching?, Search.rows?_of_not_blocks hlimits h]
  rfl

omit hlimits in
include hlimit in
theorem search?_of_matching {rows : List Row} (h : t.matching? query = .ok rows) :
    t.search? query 0 limit =
      .ok { messages := t.summaries rows, total := rows.length.toUInt64 } := by
  rw [search?_eq, h]
  simp only [Except.map, page_unlimited _ hlimit]

end Damaged

end Tables

namespace Mailbox

open Query

end Mailbox

end Letterbox
