import Letterbox.Mailbox.Search
import Letterbox.Proofs.Mailbox.Listing
import Letterbox.Proofs.Mailbox.Vocabulary
import Letterbox.Proofs.Text.AsciiCase

namespace Letterbox

def Address.texts (a : Address) : List String :=
  [a.address, a.name]

namespace Query

open Text

def Mentions (value text : String) : Prop :=
  Wildcard.folded value.toList <:+: Wildcard.folded text.toList

instance (value text : String) : Decidable (Mentions value text) :=
  inferInstanceAs (Decidable (_ <:+: _))

def Field.texts (s : Summary) : Field → List String
  | .sender => s.parties.sender.toList.flatMap Address.texts
  | .recipient => s.parties.recipients.flatMap Address.texts
  | .copy => s.parties.copies.flatMap Address.texts
  | .blindCopy => s.parties.blindCopies.flatMap Address.texts
  | .replyTo => s.parties.replyTo.flatMap Address.texts
  | .addressed =>
    (s.parties.recipients ++ s.parties.copies ++ s.parties.blindCopies).flatMap Address.texts
  | .subject => [s.subject]
  | .messageId => []
  | .tag => []

def MentionsLower (value text : String) : Prop :=
  Wildcard.reading (lower value.toList) <:+: Wildcard.reading text.toList

instance (value text : String) : Decidable (MentionsLower value text) :=
  inferInstanceAs (Decidable (_ <:+: _))

def Condition.Holds (indexed : String) (s : Summary) : Condition → Prop
  | .text v => MentionsLower v indexed ∨ ∃ name ∈ s.tags, MentionsLower v (Tag.key name)
  | .field .messageId v =>
    s.messageId = String.ofList (trimBoth (fun c => c == '<' || c == '>') v.toList)
  | .field .tag v => ∃ name ∈ s.tags, Tag.key name = Tag.key v
  | .field f v => ∃ text ∈ f.texts s, Mentions v text
  | .flag .read => s.read = true
  | .flag .unread => s.read = false
  | .flag .tagged => s.tags ≠ []
  | .flag .attachment => 0 < s.attachmentCount
  | .flag .inlinePart => 0 < s.inlineCount
  | .date .before d => s.created.millis < Search.dayStart d
  | .date .after d => Search.dayStart d ≤ s.created.millis

instance (indexed : String) (s : Summary) : (c : Condition) → Decidable (c.Holds indexed s)
  | .text _ => inferInstanceAs (Decidable (_ ∨ _))
  | .field .messageId _ => inferInstanceAs (Decidable (_ = _))
  | .field .tag _ => inferInstanceAs (Decidable (∃ name ∈ s.tags, _))
  | .field .sender _ => inferInstanceAs (Decidable (∃ text ∈ _, Mentions _ text))
  | .field .recipient _ => inferInstanceAs (Decidable (∃ text ∈ _, Mentions _ text))
  | .field .copy _ => inferInstanceAs (Decidable (∃ text ∈ _, Mentions _ text))
  | .field .blindCopy _ => inferInstanceAs (Decidable (∃ text ∈ _, Mentions _ text))
  | .field .replyTo _ => inferInstanceAs (Decidable (∃ text ∈ _, Mentions _ text))
  | .field .addressed _ => inferInstanceAs (Decidable (∃ text ∈ _, Mentions _ text))
  | .field .subject _ => inferInstanceAs (Decidable (∃ text ∈ _, Mentions _ text))
  | .flag .read => inferInstanceAs (Decidable (_ = _))
  | .flag .unread => inferInstanceAs (Decidable (_ = _))
  | .flag .tagged => inferInstanceAs (Decidable (¬ _ = _))
  | .flag .attachment => inferInstanceAs (Decidable (_ < _))
  | .flag .inlinePart => inferInstanceAs (Decidable (_ < _))
  | .date .before _ => inferInstanceAs (Decidable (_ < _))
  | .date .after _ => inferInstanceAs (Decidable (_ ≤ _))

def Term.Holds (indexed : String) (s : Summary) (term : Term) : Prop :=
  if term.negated then ¬ term.condition.Holds indexed s else term.condition.Holds indexed s

instance (indexed : String) (s : Summary) (term : Term) : Decidable (term.Holds indexed s) :=
  inferInstanceAs (Decidable (ite _ _ _))

def Condition.texts (indexed : String) (s : Summary) : Condition → List String
  | .text _ => indexed :: s.tags.map Tag.key
  | .field f _ => f.texts s
  | _ => []

def Condition.value? : Condition → Option String
  | .text v => some v
  | .field _ v => some v
  | _ => none

def Condition.sought? : Condition → Option (List Char)
  | .text v => some (lower v.toList)
  | .field .messageId _ => none
  | .field .tag _ => none
  | .field _ v => some v.toList
  | _ => none

/-- Whether the values of terms are within the length that patterns may have, and their depth within
what may be searched for at once. -/
structure InLimits (terms : List Term) : Prop where
  depth : Search.totalDepth terms ≤ Search.depthLimit
  length : ∀ term ∈ terms, ∀ v ∈ term.condition.sought?,
    Wildcard.isTooLong (Wildcard.containing v) = false

end Query

namespace Search

open Query Text

theorem depth_le (term : Term) : depth term ≤ 12 := by
  unfold depth
  split <;> split <;> decide

theorem totalDepth_singleton (term : Term) : totalDepth [term] ≤ depthLimit := by
  have hdepth := depth_le term
  simp only [totalDepth, List.foldl_cons, List.foldl_nil, depthLimit]
  omega

theorem inLimits_singleton {term : Term}
    (h : ∀ v ∈ term.condition.sought?, Wildcard.isTooLong (Wildcard.containing v) = false) :
    InLimits [term] :=
  ⟨totalDepth_singleton term, List.forall_mem_singleton.mpr h⟩

def isFound (v text : List Char) : Bool :=
  decide (Wildcard.folded v <:+: Wildcard.folded text)

section Values

variable {v : List Char} (hshort : Wildcard.isTooLong (Wildcard.containing v) = false)
  (hv : Wildcard.IsWhole v)

include hshort hv

theorem contains?_eq {text : List Char} (htext : Wildcard.IsWhole text) :
    contains? v text = .ok (isFound v text) := by
  have hmatch := Wildcard.matches?_containing_iff hv htext
  simp only [contains?, hshort, Bool.false_eq_true, if_false, Except.ok.injEq]
  exact Bool.eq_iff_iff.mpr (by rw [hmatch, isFound, decide_eq_true_iff])

theorem anyContains?_eq {texts : List (List Char)}
    (htexts : ∀ text ∈ texts, Wildcard.IsWhole text) :
    anyContains? v texts = .ok (texts.any (isFound v)) := by
  induction texts with
  | nil => rfl
  | cons text texts ih =>
    have hfirst := contains?_eq hshort hv (htexts text (by simp))
    have hrest := ih fun text' htext' => htexts text' (by simp [htext'])
    rw [anyContains?, hfirst, hrest, List.any_cons]
    cases isFound v text <;> rfl

theorem anyItem?_eq {addresses : List Address}
    (htexts : ∀ text ∈ addresses.flatMap Address.texts, Wildcard.IsWhole text.toList) :
    anyItem? v (addresses.map Address.toJson) =
      .ok ((addresses.flatMap Address.texts).any fun text => isFound v text.toList) := by
  induction addresses with
  | nil => rfl
  | cons a addresses ih =>
    have hitem : itemTexts? a.toJson = .ok (a.texts.map String.toList) := rfl
    have hfirst := anyContains?_eq hshort hv (by
      intro text htext
      obtain ⟨text', hmem, rfl⟩ := List.mem_map.mp htext
      exact htexts text' (List.mem_flatMap.mpr ⟨a, by simp, hmem⟩))
    have hrest := ih fun text htext => htexts text (by
      rw [List.flatMap_cons, List.mem_append]
      exact Or.inr htext)
    rw [List.map_cons, anyItem?, hitem, hrest, List.flatMap_cons, List.any_append]
    simp only [bind, Except.bind, hfirst, List.any_map, Function.comp_def]
    cases a.texts.any fun text => isFound v text.toList <;> rfl

theorem anyListed?_eq {metadata : Json} {names : List String} {lists : List (List Address)}
    (hlists : List.Forall₂ (fun name l => listed name metadata = l.map Address.toJson) names lists)
    (htexts : ∀ text ∈ lists.flatten.flatMap Address.texts, Wildcard.IsWhole text.toList) :
    anyListed? v metadata names =
      .ok ((lists.flatten.flatMap Address.texts).any fun text => isFound v text.toList) := by
  induction hlists with
  | nil => rfl
  | @cons name l names lists hlisted _ ih =>
    rw [List.flatten_cons, List.flatMap_append] at htexts ⊢
    have hfirst := anyItem?_eq hshort hv fun text htext =>
      htexts text (List.mem_append_left _ htext)
    have hrest := ih fun text htext => htexts text (List.mem_append_right _ htext)
    rw [anyListed?, hlisted, hfirst, hrest, List.any_append]
    simp only [bind, Except.bind, pure, Except.pure]
    cases (l.flatMap Address.texts).any fun text => isFound v text.toList <;> rfl

end Values

theorem contains?_decides {v text : List Char} (hv : Wildcard.IsWhole v)
    (htext : Wildcard.IsWhole text) :
    Wildcard.items? (Wildcard.upToNul (Wildcard.containing v)) =
        some (.any :: (v.map .char ++ [.any])) ∧
      (Wildcard.sizeLimit < (encode (Wildcard.containing v)).length →
        contains? v text = .error .patternTooLong) ∧
      ((encode (Wildcard.containing v)).length ≤ Wildcard.sizeLimit → ∃ found,
        contains? v text = .ok found ∧
          (found = true ↔ Wildcard.folded v <:+: Wildcard.folded text) ∧
          (Wildcard.ToldApart v text →
            (found = true ↔ lowerAscii v <:+: lowerAscii text))) := by
  refine ⟨?_, ?_, ?_⟩
  · rw [Wildcard.upToNul_of_isWhole (Wildcard.isWhole_containing hv), Wildcard.items?_containing]
  · intro hlong
    have htoo : Wildcard.isTooLong (Wildcard.containing v) = true := decide_eq_true hlong
    rw [contains?, if_pos htoo]
  · intro hshort
    have hfits : Wildcard.isTooLong (Wildcard.containing v) = false :=
      decide_eq_false (Nat.not_lt.mpr hshort)
    have hfound : isFound v text = true ↔ Wildcard.folded v <:+: Wildcard.folded text :=
      decide_eq_true_iff
    refine ⟨isFound v text, contains?_eq hfits hv htext, hfound, ?_⟩
    intro happart
    rw [hfound, Wildcard.folded_infix_iff happart]

theorem contains?_decides_signs :
    let v := "50%_\\A".toList
    Wildcard.IsWhole v ∧ contains? v "up to 50%_\\a!".toList = .ok true ∧
      contains? v "up to 50 xx\\a!".toList = .ok false := by
  intro v
  have hv : Wildcard.IsWhole v := by decide
  have hshort : (encode (Wildcard.containing v)).length ≤ Wildcard.sizeLimit := by decide +kernel
  obtain ⟨one, hone, -, hin⟩ := (contains?_decides hv
    (by decide : Wildcard.IsWhole "up to 50%_\\a!".toList)).2.2 hshort
  obtain ⟨other, hother, -, hout⟩ := (contains?_decides hv
    (by decide : Wildcard.IsWhole "up to 50 xx\\a!".toList)).2.2 hshort
  have hfound : one = true := (hin (by decide +kernel)).mpr (by decide +kernel)
  have hlost : other = false := by
    rw [← Bool.not_eq_true, hout (by decide +kernel)]
    decide +kernel
  exact ⟨hv, hfound ▸ hone, hlost ▸ hother⟩

theorem contains?_decides_limits :
    (contains? ['\uFFFE'] ['\uFFFF'] = .ok true ∧
      ¬ lowerAscii ['\uFFFE'] <:+: lowerAscii ['\uFFFF']) ∧
    let v := List.replicate Wildcard.sizeLimit 'a'
    contains? v v = .error .patternTooLong ∧ lowerAscii v <:+: lowerAscii v := by
  refine ⟨by decide +kernel, ?_⟩
  intro v
  have hlong := Wildcard.length_lt_encode_containing v
  rw [List.length_replicate] at hlong
  have htoo : Wildcard.isTooLong (Wildcard.containing v) = true := decide_eq_true hlong
  exact ⟨by rw [contains?, if_pos htoo], List.infix_rfl⟩

def Tells (x : Except Unsearchable Bool) (P : Prop) : Prop :=
  ∃ b, x = .ok b ∧ (b = true ↔ P)

theorem tells_any {v : String} {texts : List String} {x : Except Unsearchable Bool}
    (h : x = .ok (texts.any fun text => isFound v.toList text.toList)) :
    Tells x (∃ text ∈ texts, Mentions v text) := by
  refine ⟨_, h, ?_⟩
  simp only [List.any_eq_true, isFound, decide_eq_true_iff, Mentions]

theorem mem_keysOf {t : Tables} (ht : t.Tagged) {id key : String} :
    key ∈ keysOf t id ↔ ∃ name ∈ t.tagsOf id, Tag.key name = key := by
  simp only [keysOf, Tables.tagsOf, Tables.sortedTags, List.mem_map, List.mem_filter]
  constructor
  · rintro ⟨g, ⟨hg, hcarries⟩, rfl⟩
    exact ⟨g.name, ⟨g, ⟨mem_sortBy.mpr hg, hcarries⟩, rfl⟩, (ht.normal g hg).2.symm⟩
  · rintro ⟨name, ⟨g, ⟨hg, hcarries⟩, rfl⟩, rfl⟩
    have hmem := mem_sortBy.mp hg
    exact ⟨g, ⟨hmem, hcarries⟩, (ht.normal g hmem).2⟩

theorem any_links {t : Tables} (ht : t.Tagged) (id : String) :
    (t.links.any fun l => l.1 == id) = true ↔ t.tagsOf id ≠ [] := by
  simp only [Tables.tagsOf, ne_eq, List.map_eq_nil_iff, List.filter_eq_nil_iff, not_forall,
    List.any_eq_true, beq_iff_eq, Tables.sortedTags, Tables.carries]
  constructor
  · rintro ⟨l, hl, rfl⟩
    obtain ⟨g, hg, hnumber⟩ := List.mem_map.mp (ht.links_tag l hl)
    refine ⟨g, mem_sortBy.mpr hg, ?_⟩
    simpa [hnumber] using hl
  · rintro ⟨g, hg, hcarries⟩
    exact ⟨(id, g.number), by simpa using hcarries, rfl⟩

theorem depth_address (a : Address) : a.toJson.depth = 1 :=
  rfl

theorem depth_addressesJson_le (l : List Address) : (Parties.addressesJson l).depth ≤ 2 := by
  have hitems : Json.depthOfItems (l.map Address.toJson) ≤ 1 := by
    induction l with
    | nil => simp [Json.depthOfItems]
    | cons a l ih =>
      rw [List.map_cons, Json.depthOfItems, depth_address]
      exact Nat.max_le.mpr ⟨Nat.le_refl 1, ih⟩
  rw [Parties.addressesJson, Json.depth]
  omega

theorem depth_toJson_le (p : Parties) : p.toJson.depth ≤ 3 := by
  have hsender : (Json.optional Address.toJson p.sender).depth ≤ 1 := by
    cases p.sender with
    | none => simp [Json.optional, Json.depth]
    | some a => exact Nat.le_of_eq (depth_address a)
  have hlists (l : List Address) := depth_addressesJson_le l
  have hto := hlists p.recipients
  have hcc := hlists p.copies
  have hbcc := hlists p.blindCopies
  have hreply := hlists p.replyTo
  simp only [Parties.toJson, Parties.jsonFields, Json.depth, Json.depthOfFields]
  omega

theorem column?_toJson (p : Parties) : (Document.json p.toJson).column? = some p.toJson := by
  have hdepth := depth_toJson_le p
  rw [Document.column?, if_pos (Nat.le_trans hdepth (by decide))]

@[simp] theorem textOf?_string (s : String) : textOf? (.string s) = some s.toList :=
  rfl

section Rows

variable {t : Tables} {r : Row} {s : Summary} (ht : t.Tagged) (hshows : t.Shows r s)

include hshows

theorem withMetadata_of_shows (f : Json → Except Unsearchable Bool) :
    withMetadata r f = f s.parties.toJson := by
  rw [withMetadata, hshows.metadata, column?_toJson]

theorem tells_sender {value : String} (hshort : Wildcard.isTooLong
      (Wildcard.containing value.toList) = false) (hvalue : Wildcard.IsWhole value.toList)
    (hne : value ≠ "") (htexts : ∀ text ∈ Field.sender.texts s, Wildcard.IsWhole text.toList) :
    Tells (fieldHolds? t r .sender value) (∃ text ∈ Field.sender.texts s, Mentions value text) := by
  rw [fieldHolds?, withMetadata_of_shows hshows]
  simp only [Field.texts] at htexts ⊢
  cases hsender : s.parties.sender with
  | none =>
    -- a missing sender is searched as two empty texts, where only the empty value would be found
    have hlook : senderHas? value.toList s.parties.toJson =
        anyContains? value.toList [[], []] := by
      simp [senderHas?, member?, Parties.toJson, Parties.jsonFields, hsender, Json.optional,
        fieldText?]
    have hnot : isFound value.toList [] = false := by
      simpa [isFound, Wildcard.folded, Wildcard.reading, lowerAscii] using hne
    refine ⟨false, ?_, by simp⟩
    rw [hlook, anyContains?_eq hshort hvalue (by simp [Wildcard.IsWhole])]
    simp [hnot]
  | some a =>
    rw [hsender] at htexts
    have hlook : senderHas? value.toList s.parties.toJson =
        anyContains? value.toList (a.texts.map String.toList) := by
      simp [senderHas?, member?, Parties.toJson, Parties.jsonFields, hsender, Json.optional,
        fieldText?, Address.toJson, Address.texts]
    refine tells_any ?_
    rw [hlook, anyContains?_eq hshort hvalue, List.any_map]
    · simp [Function.comp_def]
    · intro text htext
      obtain ⟨text', hmem, rfl⟩ := List.mem_map.mp htext
      exact htexts text' (by simpa using hmem)

theorem tells_listed {value : String} {f : Field} {names : List String}
    (lists : List (List Address)) (hshort : Wildcard.isTooLong
      (Wildcard.containing value.toList) = false) (hvalue : Wildcard.IsWhole value.toList)
    (hfield : fieldHolds? t r f value =
      withMetadata r fun metadata => anyListed? value.toList metadata names)
    (hlists : List.Forall₂ (fun name l => listed name s.parties.toJson = l.map Address.toJson)
      names lists)
    (hf : f.texts s = lists.flatten.flatMap Address.texts)
    (htexts : ∀ text ∈ f.texts s, Wildcard.IsWhole text.toList) :
    Tells (fieldHolds? t r f value) (∃ text ∈ f.texts s, Mentions value text) := by
  refine tells_any ?_
  rw [hfield, withMetadata_of_shows hshows, hf]
  exact anyListed?_eq hshort hvalue hlists (hf ▸ htexts)

include ht in
theorem tells_field {indexed value : String} {f : Field}
    (hshort : ∀ v ∈ (Condition.field f value).sought?,
      Wildcard.isTooLong (Wildcard.containing v) = false)
    (hvalue : Wildcard.IsWhole value.toList) (hne : value ≠ "")
    (htexts : ∀ text ∈ f.texts s, Wildcard.IsWhole text.toList) :
    Tells (fieldHolds? t r f value) ((Condition.field f value).Holds indexed s) := by
  cases f with
  | sender => exact tells_sender hshows (hshort _ rfl) hvalue hne htexts
  | recipient =>
    exact tells_listed hshows [s.parties.recipients] (hshort _ rfl) hvalue rfl
      (.cons rfl .nil) (by simp [Field.texts]) htexts
  | copy =>
    exact tells_listed hshows [s.parties.copies] (hshort _ rfl) hvalue rfl
      (.cons rfl .nil) (by simp [Field.texts]) htexts
  | blindCopy =>
    exact tells_listed hshows [s.parties.blindCopies] (hshort _ rfl) hvalue rfl
      (.cons rfl .nil) (by simp [Field.texts]) htexts
  | replyTo =>
    exact tells_listed hshows [s.parties.replyTo] (hshort _ rfl) hvalue rfl
      (.cons rfl .nil) (by simp [Field.texts]) htexts
  | addressed =>
    exact tells_listed hshows [s.parties.recipients, s.parties.copies, s.parties.blindCopies]
      (hshort _ rfl) hvalue rfl (.cons rfl (.cons rfl (.cons rfl .nil))) (by simp [Field.texts])
      htexts
  | subject =>
    have hsubject := htexts s.subject (by simp [Field.texts])
    have hany : Tells (fieldHolds? t r .subject value)
        (∃ text ∈ [s.subject], Mentions value text) := by
      refine tells_any ?_
      rw [fieldHolds?, ← hshows.subject, contains?_eq (hshort _ rfl) hvalue hsubject]
      simp
    exact hany
  | messageId =>
    refine ⟨_, rfl, ?_⟩
    rw [beq_iff_eq, ← hshows.messageId]
    rfl
  | tag =>
    refine ⟨_, rfl, ?_⟩
    rw [List.contains_iff_mem, mem_keysOf ht, ← hshows.tags]
    rfl

include ht in
theorem tells_text {value : String}
    (hlower : lowerAscii r.searchText.toList = r.searchText.toList)
    (hshort : Wildcard.isTooLong (Wildcard.containing (lower value.toList)) = false)
    (hvalue : Wildcard.IsWhole value.toList)
    (htexts : ∀ text ∈ (Condition.text value).texts r.searchText s, Wildcard.IsWhole text.toList) :
    Tells (conditionHolds? t r (.text value)) ((Condition.text value).Holds r.searchText s) := by
  have hfound {text : String} (htext : lowerAscii text.toList = text.toList) :
      isFound (lower value.toList) text.toList = true ↔ MentionsLower value text := by
    rw [isFound, decide_eq_true_iff, Wildcard.folded, Wildcard.folded, lowerAscii_lower, htext]
    rfl
  have hkey (name : String) : lowerAscii (Tag.key name).toList = (Tag.key name).toList := by
    rw [Tag.key, String.toList_ofList, lowerAscii_lower]
  have hwhole : ∀ text ∈ r.searchText.toList :: (keysOf t r.id).map String.toList,
      Wildcard.IsWhole text := by
    intro text htext
    rcases List.mem_cons.mp htext with rfl | htext
    · exact htexts r.searchText (by simp [Condition.texts])
    · obtain ⟨key, hmem, rfl⟩ := List.mem_map.mp htext
      obtain ⟨name, hname, rfl⟩ := (mem_keysOf ht).mp hmem
      rw [← hshows.tags] at hname
      exact htexts _ (by simpa [Condition.texts] using Or.inr ⟨name, hname, rfl⟩)
  rw [conditionHolds?, anyContains?_eq hshort (isWhole_lower hvalue) hwhole]
  refine ⟨_, rfl, ?_⟩
  simp only [List.any_cons, Bool.or_eq_true, hfound hlower, List.any_map, List.any_eq_true,
    Function.comp_apply, Condition.Holds, mem_keysOf ht, ← hshows.tags]
  refine or_congr_right ⟨?_, ?_⟩
  · rintro ⟨-, ⟨name, hname, rfl⟩, hin⟩
    exact ⟨name, hname, (hfound (hkey name)).mp hin⟩
  · rintro ⟨name, hname, hin⟩
    exact ⟨_, ⟨name, hname, rfl⟩, (hfound (hkey name)).mpr hin⟩

include ht in
theorem tells_condition {c : Condition}
    (hlower : lowerAscii r.searchText.toList = r.searchText.toList)
    (hshort : ∀ v ∈ c.sought?, Wildcard.isTooLong (Wildcard.containing v) = false)
    (hvalue : ∀ v ∈ c.value?, Wildcard.IsWhole v.toList) (hne : ∀ f v, c = .field f v → v ≠ "")
    (htexts : ∀ text ∈ c.texts r.searchText s, Wildcard.IsWhole text.toList) :
    Tells (conditionHolds? t r c) (c.Holds r.searchText s) := by
  cases c with
  | text value =>
    exact tells_text ht hshows hlower (hshort _ rfl) (hvalue _ rfl) htexts
  | field f value => exact tells_field ht hshows hshort (hvalue _ rfl) (hne f value rfl) htexts
  | flag flag =>
    refine ⟨_, rfl, ?_⟩
    cases flag with
    | read => rw [flagHolds, ← hshows.read]; rfl
    | unread => rw [flagHolds, ← hshows.read, Bool.not_eq_true']; rfl
    | tagged => rw [flagHolds, any_links ht, ← hshows.tags]; rfl
    | attachment => rw [flagHolds, ← hshows.attachmentCount, decide_eq_true_iff]; rfl
    | inlinePart => rw [flagHolds, ← hshows.inlineCount, decide_eq_true_iff]; rfl
  | date side d =>
    cases side with
    | before => exact ⟨_, rfl, by rw [decide_eq_true_iff, ← hshows.created]; rfl⟩
    | after => exact ⟨_, rfl, by rw [decide_eq_true_iff, ← hshows.created]; rfl⟩

end Rows

end Search

end Letterbox
