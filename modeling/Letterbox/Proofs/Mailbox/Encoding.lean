import Letterbox.Mailbox.Encoding
import Letterbox.Proofs.Json.Reading
import Letterbox.Proofs.Json.Record
import Letterbox.Proofs.Time.Instant

namespace Letterbox

open Json

-- On `>>=`: with `Option.bind` in its place `simp` goes through each field twice over for every
-- field before it, too often for the longest records.
theorem bind_eq_some_iff_exists {α β : Type} {x : Option α} {f : α → Option β} {b : β} :
    (x >>= f) = some b ↔ ∃ a, x = some a ∧ f a = some b :=
  Option.bind_eq_some_iff

theorem record?_object {names : List String} {fields : List (String × Json)}
    (hnodup : names.Nodup) (hnames : fields.map Prod.fst = names) :
    record? names (.object fields) = some { entries := fields, named := true } := by
  have hknown : (fields.map Prod.fst).filter names.contains = names := by
    rw [hnames]
    exact List.filter_eq_self.mpr fun n hn => by simpa using hn
  simp only [record?, Fields.ofNamed?, hknown, eraseDups_of_nodup hnodup, beq_self_eq_true, if_true]

theorem readItems_map {α : Type} {write : α → Json} {read : Json → Option α} {l : List α}
    (h : ∀ a ∈ l, read (write a) = some a) : readItems read (l.map write) = some l := by
  induction l with
  | nil => rfl
  | cons a l ih =>
    obtain ⟨ha, hl⟩ := List.forall_mem_cons.mp h
    simp only [List.map_cons, readItems, ha, ih hl, Option.map_some]

theorem exists_of_mem_readItems {V α : Type} {read : V → Option α} {l : List V} {as : List α}
    (h : readItems read l = some as) {a : α} (ha : a ∈ as) : ∃ v ∈ l, read v = some a := by
  induction l generalizing as with
  | nil =>
    cases h
    cases ha
  | cons v l ih =>
    rw [readItems] at h
    split at h
    · rename_i b hb
      obtain ⟨as', has', rfl⟩ := Option.map_eq_some_iff.mp h
      rcases List.mem_cons.mp ha with rfl | ha
      · exact ⟨v, by simp, hb⟩
      · obtain ⟨w, hw, hread⟩ := ih has' ha
        exact ⟨w, by simp [hw], hread⟩
    · cases h

theorem strings?_strings (l : List String) : strings? (strings l) = some l :=
  readItems_map fun _ _ => rfl

theorem orNull?_optional {α : Type} {write : α → Json} {read : Json → Option α}
    (h : ∀ a, read (write a) = some a) (hnull : ∀ a, write a ≠ .null) (o : Option α) :
    orNull? read (.optional write o) = some o := by
  cases o with
  | none => rfl
  | some a =>
    have hread : orNull? read (write a) = (read (write a)).map some := by
      cases hw : write a with
      | null => exact absurd hw (hnull a)
      | _ => rfl
    exact hread.trans (by rw [h]; rfl)

theorem uint64?_ofUInt64 (n : UInt64) : uint64? (ofUInt64 n) = some n := by
  have hbound := n.toNat_lt
  have hread : natBelow? 18446744073709551616 (ofUInt64 n) = some n.toNat := by
    rw [ofUInt64, Json.nat, natBelow?, if_pos]
    · rfl
    · simp
      omega
  rw [uint64?, hread]
  simp

theorem uint32?_ofUInt32 (n : UInt32) : uint32? (ofUInt32 n) = some n := by
  have hbound := n.toNat_lt
  have hread : natBelow? 4294967296 (ofUInt32 n) = some n.toNat := by
    rw [ofUInt32, Json.nat, natBelow?, if_pos]
    · rfl
    · simp
      omega
  rw [uint32?, hread]
  simp

theorem plain_array {α : Type} {write : α → Json} (h : ∀ a, Plain (write a)) (l : List α) :
    Plain (.array (l.map write)) := by
  refine .array ?_
  intro v hv
  obtain ⟨a, -, rfl⟩ := List.mem_map.mp hv
  exact h a

theorem plain_optional {α : Type} {write : α → Json} (h : ∀ a, Plain (write a)) (o : Option α) :
    Plain (.optional write o) := by
  cases o with
  | none => exact .null
  | some a => exact h a

theorem plain_strings (l : List String) : Plain (strings l) :=
  plain_array Plain.string l

namespace Instant

theorem ofJson?_toJson {t : Instant} (ht : t.IsRepresentable) : ofJson? t.toJson = some t := by
  rw [ofJson?, toJson, string?, Option.bind_some, read?_text ht]

theorem plain_toJson (t : Instant) : Plain t.toJson :=
  .string t.text

theorem isRepresentable_of_ofJson? {v : Json} {t : Instant} (h : ofJson? v = some t) :
    t.IsRepresentable := by
  obtain ⟨s, -, hs⟩ := Option.bind_eq_some_iff.mp h
  exact isRepresentable_of_read? hs

end Instant

namespace Address

theorem ofJson?_toJson (a : Address) : ofJson? a.toJson = some a := by
  have hrecord : record? ["name", "address"] a.toJson = _ := record?_object (by decide) rfl
  rw [ofJson?, hrecord]
  rfl

theorem plain_toJson (a : Address) : Plain a.toJson := by
  refine .object ?_
  simp [Plain.string]

end Address

namespace Parties

theorem addresses?_addressesJson (l : List Address) : addresses? (addressesJson l) = some l :=
  readItems_map fun a _ => a.ofJson?_toJson

theorem ofJson?_toJson (p : Parties) : ofJson? p.toJson = some p := by
  have hrecord : record? fieldNames p.toJson = _ := record?_object (by decide) rfl
  have hsender : orNull? Address.ofJson? (.optional Address.toJson p.sender) = some p.sender :=
    orNull?_optional Address.ofJson?_toJson (fun a => by simp [Address.toJson]) p.sender
  rw [ofJson?, hrecord]
  simp [Fields.withDefault, Fields.value?, jsonFields, hsender, addresses?_addressesJson]

theorem ofRecord?_of_fields {r : Fields Json} {p : Parties}
    (h : ∀ f ∈ p.jsonFields, r.value? f.1 = some f.2) : ofRecord? r = some p := by
  have hsender : orNull? Address.ofJson? (.optional Address.toJson p.sender) = some p.sender :=
    orNull?_optional Address.ofJson?_toJson (fun a => by simp [Address.toJson]) p.sender
  simp only [jsonFields, List.forall_mem_cons] at h
  obtain ⟨hfrom, hto, hcc, hbcc, hreply, -⟩ := h
  rw [ofRecord?, Fields.optional_eq hfrom, Fields.required_eq hto, Fields.required_eq hcc,
    Fields.required_eq hbcc, Fields.required_eq hreply, hsender]
  simp [addresses?_addressesJson]

theorem plain_addressesJson (l : List Address) : Plain (addressesJson l) :=
  plain_array Address.plain_toJson l

theorem plain_jsonFields (p : Parties) : ∀ f ∈ p.jsonFields, Plain f.2 := by
  have hsender := plain_optional Address.plain_toJson p.sender
  simp [jsonFields, hsender, plain_addressesJson]

theorem plain_toJson (p : Parties) : Plain p.toJson :=
  .object p.plain_jsonFields

theorem parse?_render (p : Parties) : Json.parse? p.toJson.render = some p.toJson :=
  Json.parse?_render p.plain_toJson

end Parties

namespace PartSummary

theorem ofJson?_eq_some_iff {v : Json} {p : PartSummary} : ofJson? v = some p ↔
    ∃ r, record? ["part_id", "file_name", "content_type", "content_id", "size"] v = some r ∧
      r.required "part_id" string? = some p.partId ∧
      r.required "file_name" string? = some p.fileName ∧
      r.required "content_type" string? = some p.contentType ∧
      r.required "content_id" string? = some p.contentId ∧
      r.required "size" uint64? = some p.size := by
  cases p
  simp [ofJson?, Option.bind_eq_some_iff]

theorem ofJson?_toJson (p : PartSummary) : ofJson? p.toJson = some p := by
  refine ofJson?_eq_some_iff.mpr ⟨_, record?_object (by decide) rfl, rfl, rfl, rfl, rfl, ?_⟩
  exact (Fields.required_eq rfl).trans (uint64?_ofUInt64 p.size)

theorem plain_toJson (p : PartSummary) : Plain p.toJson := by
  refine .object ?_
  simp [Plain.string, ofUInt64, Json.nat, Plain.int]

end PartSummary

namespace Unsubscribe

theorem ofJson?_eq_some_iff {v : Json} {u : Unsubscribe} : ofJson? v = some u ↔
    ∃ r, record? ["header", "links", "errors", "header_post"] v = some r ∧
      r.required "header" string? = some u.header ∧
      r.required "links" strings? = some u.links ∧
      r.required "errors" strings? = some u.errors ∧
      r.required "header_post" string? = some u.post := by
  cases u
  simp [ofJson?, Option.bind_eq_some_iff]

theorem ofJson?_toJson (u : Unsubscribe) : ofJson? u.toJson = some u := by
  refine ofJson?_eq_some_iff.mpr ⟨_, record?_object (by decide) rfl, rfl, ?_, ?_, rfl⟩
  · exact (Fields.required_eq rfl).trans (strings?_strings u.links)
  · exact (Fields.required_eq rfl).trans (strings?_strings u.errors)

theorem plain_toJson (u : Unsubscribe) : Plain u.toJson := by
  refine .object ?_
  simp [Plain.string, plain_strings]

end Unsubscribe

namespace Stats

theorem ofJson?_eq_some_iff {v : Json} {s : Stats} : ofJson? v = some s ↔
    ∃ r, record? ["total", "unread", "tags"] v = some r ∧
      r.required "total" uint64? = some s.total ∧
      r.required "unread" uint64? = some s.unread ∧
      r.required "tags" strings? = some s.tags := by
  cases s
  simp [ofJson?, Option.bind_eq_some_iff]

theorem ofJson?_toJson (s : Stats) : ofJson? s.toJson = some s := by
  refine ofJson?_eq_some_iff.mpr ⟨_, record?_object (by decide) rfl, ?_, ?_, ?_⟩
  · exact (Fields.required_eq rfl).trans (uint64?_ofUInt64 s.total)
  · exact (Fields.required_eq rfl).trans (uint64?_ofUInt64 s.unread)
  · exact (Fields.required_eq rfl).trans (strings?_strings s.tags)

theorem plain_toJson (s : Stats) : Plain s.toJson := by
  refine .object ?_
  simp [ofUInt64, Json.nat, Plain.int, plain_strings]

end Stats

namespace Summary

theorem ofJson?_eq_some_iff {v : Json} {s : Summary} : ofJson? v = some s ↔
    ∃ r, record? fieldNames v = some r ∧
      r.required "id" string? = some s.id ∧
      r.required "message_id" string? = some s.messageId ∧
      Parties.ofRecord? r = some s.parties ∧
      r.required "subject" string? = some s.subject ∧
      r.required "created" Instant.ofJson? = some s.created ∧
      r.required "size" uint64? = some s.size ∧
      r.required "inline" uint32? = some s.inlineCount ∧
      r.required "attachments" uint32? = some s.attachmentCount ∧
      r.required "snippet" string? = some s.snippet ∧
      r.required "read" bool? = some s.read ∧
      r.required "tags" strings? = some s.tags := by
  simp only [ofJson?, bind_eq_some_iff_exists]
  constructor
  · rintro ⟨r, hr, id, hid, messageId, hmessageId, parties, hparties, subject, hsubject,
      created, hcreated, size, hsize, inlines, hinlines, attachments, hattachments,
      snippet, hsnippet, read, hread, tags, htags, hs⟩
    cases hs
    exact ⟨r, hr, hid, hmessageId, hparties, hsubject, hcreated, hsize, hinlines, hattachments,
      hsnippet, hread, htags⟩
  · rintro ⟨r, hr, hid, hmessageId, hparties, hsubject, hcreated, hsize, hinlines, hattachments,
      hsnippet, hread, htags⟩
    exact ⟨r, hr, _, hid, _, hmessageId, _, hparties, _, hsubject, _, hcreated, _, hsize,
      _, hinlines, _, hattachments, _, hsnippet, _, hread, _, htags, rfl⟩

theorem ofJson?_toJson {s : Summary} (hs : s.created.IsRepresentable) :
    ofJson? s.toJson = some s := by
  refine ofJson?_eq_some_iff.mpr ⟨_, record?_object (by decide) rfl, rfl, rfl,
    Parties.ofRecord?_of_fields ?_, rfl, ?_, ?_, ?_, ?_, rfl, rfl, ?_⟩
  · simp only [Parties.jsonFields, List.forall_mem_cons]
    exact ⟨rfl, rfl, rfl, rfl, rfl, nofun⟩
  · exact (Fields.required_eq rfl).trans (Instant.ofJson?_toJson hs)
  · exact (Fields.required_eq rfl).trans (uint64?_ofUInt64 s.size)
  · exact (Fields.required_eq rfl).trans (uint32?_ofUInt32 s.inlineCount)
  · exact (Fields.required_eq rfl).trans (uint32?_ofUInt32 s.attachmentCount)
  · exact (Fields.required_eq rfl).trans (strings?_strings s.tags)

theorem plain_toJson (s : Summary) : Plain s.toJson := by
  have hparties := s.parties.plain_jsonFields
  refine .object ?_
  rw [List.forall_mem_append, List.forall_mem_append]
  refine ⟨⟨?_, hparties⟩, ?_⟩ <;>
    simp [Plain.string, ofUInt64, ofUInt32, Json.nat, Plain.int, Plain.bool, plain_strings,
      Instant.plain_toJson]

theorem isRepresentable_of_ofJson? {v : Json} {s : Summary} (h : ofJson? v = some s) :
    s.created.IsRepresentable := by
  obtain ⟨r, -, -, -, -, -, hcreated, -⟩ := ofJson?_eq_some_iff.mp h
  obtain ⟨w, -, hw⟩ := Option.bind_eq_some_iff.mp hcreated
  exact Instant.isRepresentable_of_ofJson? hw

end Summary

namespace Message

theorem ofJson?_eq_some_iff {v : Json} {m : Message} : ofJson? v = some m ↔
    ∃ r, record? fieldNames v = some r ∧
      r.required "id" string? = some m.id ∧
      r.required "message_id" string? = some m.messageId ∧
      Parties.ofRecord? r = some m.parties ∧
      r.required "return_path" string? = some m.returnPath ∧
      r.required "subject" string? = some m.subject ∧
      r.optional "list_unsubscribe" Unsubscribe.ofJson? = some m.unsubscribe ∧
      r.required "date" Instant.ofJson? = some m.date ∧
      r.required "tags" strings? = some m.tags ∧
      r.required "text" string? = some m.text ∧
      r.required "html" string? = some m.html ∧
      r.required "size" uint64? = some m.size ∧
      r.required "inline" (list? PartSummary.ofJson?) = some m.inlines ∧
      r.required "attachments" (list? PartSummary.ofJson?) = some m.attachments := by
  simp only [ofJson?, bind_eq_some_iff_exists]
  constructor
  · rintro ⟨r, hr, id, hid, messageId, hmessageId, parties, hparties, returnPath, hreturnPath,
      subject, hsubject, unsubscribe, hunsubscribe, date, hdate, tags, htags, text, htext,
      html, hhtml, size, hsize, inlines, hinlines, attachments, hattachments, hm⟩
    cases hm
    exact ⟨r, hr, hid, hmessageId, hparties, hreturnPath, hsubject, hunsubscribe, hdate, htags,
      htext, hhtml, hsize, hinlines, hattachments⟩
  · rintro ⟨r, hr, hid, hmessageId, hparties, hreturnPath, hsubject, hunsubscribe, hdate, htags,
      htext, hhtml, hsize, hinlines, hattachments⟩
    exact ⟨r, hr, _, hid, _, hmessageId, _, hparties, _, hreturnPath, _, hsubject, _, hunsubscribe,
      _, hdate, _, htags, _, htext, _, hhtml, _, hsize, _, hinlines, _, hattachments, rfl⟩

theorem ofJson?_toJson {m : Message} (hm : m.date.IsRepresentable) :
    ofJson? m.toJson = some m := by
  have hparts (l : List PartSummary) :
      list? PartSummary.ofJson? (.array (l.map PartSummary.toJson)) = some l :=
    readItems_map fun p _ => p.ofJson?_toJson
  have hunsubscribe := orNull?_optional Unsubscribe.ofJson?_toJson
    (fun u => by simp [Unsubscribe.toJson]) m.unsubscribe
  refine ofJson?_eq_some_iff.mpr ⟨_, record?_object (by decide) rfl, rfl, rfl,
    Parties.ofRecord?_of_fields ?_, rfl, rfl, ?_, ?_, ?_, rfl, rfl, ?_, ?_, ?_⟩
  · simp only [Parties.jsonFields, List.forall_mem_cons]
    exact ⟨rfl, rfl, rfl, rfl, rfl, nofun⟩
  · exact (Fields.optional_eq rfl).trans hunsubscribe
  · exact (Fields.required_eq rfl).trans (Instant.ofJson?_toJson hm)
  · exact (Fields.required_eq rfl).trans (strings?_strings m.tags)
  · exact (Fields.required_eq rfl).trans (uint64?_ofUInt64 m.size)
  · exact (Fields.required_eq rfl).trans (hparts m.inlines)
  · exact (Fields.required_eq rfl).trans (hparts m.attachments)

theorem plain_toJson (m : Message) : Plain m.toJson := by
  have hparties := m.parties.plain_jsonFields
  refine .object ?_
  rw [List.forall_mem_append, List.forall_mem_append]
  refine ⟨⟨?_, hparties⟩, ?_⟩ <;>
    simp [Plain.string, ofUInt64, Json.nat, Plain.int, plain_strings, Instant.plain_toJson,
      plain_optional Unsubscribe.plain_toJson, plain_array PartSummary.plain_toJson]

theorem isRepresentable_of_ofJson? {v : Json} {m : Message} (h : ofJson? v = some m) :
    m.date.IsRepresentable := by
  obtain ⟨r, -, -, -, -, -, -, -, hdate, -⟩ := ofJson?_eq_some_iff.mp h
  obtain ⟨w, -, hw⟩ := Option.bind_eq_some_iff.mp hdate
  exact Instant.isRepresentable_of_ofJson? hw

end Message

namespace SearchResults

theorem ofJson?_eq_some_iff {v : Json} {s : SearchResults} : ofJson? v = some s ↔
    ∃ r, record? ["messages", "total"] v = some r ∧
      r.required "messages" (list? Summary.ofJson?) = some s.messages ∧
      r.required "total" uint64? = some s.total := by
  cases s
  simp [ofJson?, Option.bind_eq_some_iff]

theorem ofJson?_toJson {s : SearchResults}
    (hs : ∀ e ∈ s.messages, e.created.IsRepresentable) : ofJson? s.toJson = some s := by
  have hmessages : list? Summary.ofJson? (.array (s.messages.map Summary.toJson)) =
      some s.messages := readItems_map fun e he => Summary.ofJson?_toJson (hs e he)
  refine ofJson?_eq_some_iff.mpr ⟨_, record?_object (by decide) rfl, ?_, ?_⟩
  · exact (Fields.required_eq rfl).trans hmessages
  · exact (Fields.required_eq rfl).trans (uint64?_ofUInt64 s.total)

theorem plain_toJson (s : SearchResults) : Plain s.toJson := by
  refine .object ?_
  simp [ofUInt64, Json.nat, Plain.int, plain_array Summary.plain_toJson]

theorem isRepresentable_of_ofJson? {v : Json} {s : SearchResults} (h : ofJson? v = some s) :
    ∀ e ∈ s.messages, e.created.IsRepresentable := by
  obtain ⟨r, -, hmessages, -⟩ := ofJson?_eq_some_iff.mp h
  obtain ⟨w, -, hw⟩ := Option.bind_eq_some_iff.mp hmessages
  intro e he
  cases w with
  | array items =>
    obtain ⟨u, -, hu⟩ := exists_of_mem_readItems hw he
    exact Summary.isRepresentable_of_ofJson? hu
  | _ => cases hw

end SearchResults

end Letterbox
