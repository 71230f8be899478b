import Letterbox.Config.Json
import Letterbox.Proofs.Config.Reading
import Letterbox.Proofs.Mailbox.Damage
import Letterbox.Proofs.Mailbox.Run

namespace Letterbox

open Json

/-- That the text of each valid value is read as that value, and so is the text of every value that
has been read. -/
structure Json.Lossless {α : Type} (write : α → Json) (read : Json → Option α)
    (valid : α → Prop) : Prop where
  back : ∀ a, valid a → (parse? (write a).render).bind read = some a
  again : ∀ s a, (parse? s).bind read = some a → (parse? (write a).render).bind read = some a

theorem Json.Lossless.of_plain {α : Type} {write : α → Json} {read : Json → Option α}
    {valid : α → Prop} (hplain : ∀ a, Plain (write a))
    (hback : ∀ a, valid a → read (write a) = some a)
    (hvalid : ∀ v a, read v = some a → valid a) : Lossless write read valid := by
  have hread (a : α) (ha : valid a) : (parse? (write a).render).bind read = some a := by
    rw [parse?_render (hplain a), Option.bind_some, hback a ha]
  refine ⟨hread, fun s a h => ?_⟩
  obtain ⟨v, -, hv⟩ := Option.bind_eq_some_iff.mp h
  exact hread a (hvalid v a hv)

theorem jsonFormat_record {names : List String} {fields : List (String × Json)}
    (hnodup : names.Nodup) (hnames : fields.map Prod.fst = names) :
    jsonFormat.record names (.object fields) = some { entries := fields, named := true } :=
  record?_object hnodup hnames

theorem jsonFormat_orNull_optional {α : Type} {write : α → Json} {read : Json → Option α}
    (h : ∀ a, read (write a) = some a) (hnull : ∀ a, write a ≠ .null) (o : Option α) :
    jsonFormat.orNull read (.optional write o) = some o := by
  cases o with
  | none => rfl
  | some a =>
    have hsome : jsonFormat.isNull (write a) = false := by
      cases hw : write a with
      | null => exact absurd hw (hnull a)
      | _ => rfl
    rw [Format.orNull, Json.optional, hsome, if_neg Bool.false_ne_true, h, Option.map_some]

theorem jsonFormat_orNull_string (o : Option String) :
    jsonFormat.orNull jsonFormat.string (.optional .string o) = some o := by
  have hstring (s : String) : jsonFormat.string (.string s) = some s := rfl
  exact jsonFormat_orNull_optional hstring (fun _ => by simp) o

theorem jsonFormat_unsigned (n : UInt64) : jsonFormat.unsigned (ofUInt64 n) = some n := by
  have hunsigned : jsonFormat.unsigned = uint64? := rfl
  rw [hunsigned, uint64?_ofUInt64]

def StorageConfig.IsSized (c : StorageConfig) : Prop :=
  -2147483648 ≤ c.compressionLevel ∧ c.compressionLevel ≤ 2147483647

theorem StorageConfig.read?_toJson {c : StorageConfig} (hc : c.IsSized) :
    read? jsonFormat c.toJson = some c := by
  have hsigned : jsonFormat.signed (.int c.compressionLevel) = some c.compressionLevel := by
    rw [jsonFormat]
    simp [hc.1, hc.2]
  refine read?_eq_some_iff.mpr ⟨_, jsonFormat_record (by decide) rfl, ?_, rfl, ?_⟩
  · exact (Fields.withDefault_eq rfl).trans (jsonFormat_orNull_string c.dataFile)
  · exact (Fields.withDefault_eq rfl).trans hsigned

theorem RetentionConfig.read?_toJson (c : RetentionConfig) :
    read? jsonFormat c.toJson = some c := by
  have hnull (n : UInt64) : ofUInt64 n ≠ .null := by simp [ofUInt64, Json.nat]
  have hage := jsonFormat_orNull_optional jsonFormat_unsigned hnull c.maxAgeHours
  refine read?_eq_some_iff.mpr ⟨_, jsonFormat_record (by decide) rfl, ?_, ?_, ?_, ?_⟩
  · exact (Fields.withDefault_eq rfl).trans (jsonFormat_unsigned c.maxMessages)
  · exact (Fields.withDefault_eq rfl).trans hage
  · exact (Fields.withDefault_eq rfl).trans (jsonFormat_unsigned c.intervalSeconds)
  · exact (Fields.withDefault_eq rfl).trans (jsonFormat_unsigned c.idleAfterSeconds)

theorem WebhookConfig.read?_toJson (c : WebhookConfig) : read? jsonFormat c.toJson = some c := by
  refine read?_eq_some_iff.mpr ⟨_, jsonFormat_record (by decide) rfl, ?_, ?_⟩
  · exact (Fields.withDefault_eq rfl).trans (jsonFormat_orNull_string c.url)
  · exact (Fields.withDefault_eq rfl).trans (jsonFormat_unsigned c.timeoutSeconds)

theorem LoggingConfig.read?_toJson (c : LoggingConfig) : read? jsonFormat c.toJson = some c :=
  read?_eq_some_iff.mpr ⟨_, jsonFormat_record (by decide) rfl, rfl, rfl⟩

theorem TagRule.read?_eq_some_iff {v : Json} {r : TagRule} :
    read? jsonFormat v = some r ↔ ∃ fields, record? ["pattern", "tags"] v = some fields ∧
      fields.required "pattern" string? = some r.pattern ∧
      fields.required "tags" (jsonFormat.list string?) = some r.tags := by
  cases r
  simp [read?, Option.bind_eq_some_iff, jsonFormat]

theorem TagRule.read?_toJson (r : TagRule) : read? jsonFormat r.toJson = some r := by
  have htags : jsonFormat.list string? (strings r.tags) = some r.tags :=
    readItems_map fun _ _ => rfl
  refine read?_eq_some_iff.mpr ⟨_, record?_object (by decide) rfl, rfl, ?_⟩
  exact (Fields.required_eq rfl).trans htags

theorem readTagRules?_toJson (rules : List TagRule) :
    readTagRules? jsonFormat (.object [("rules", .array (rules.map TagRule.toJson))]) =
      some rules := by
  have hrules : jsonFormat.list (TagRule.read? jsonFormat) (.array (rules.map TagRule.toJson)) =
      some rules := readItems_map fun r _ => r.read?_toJson
  refine readTagRules?_eq_some_iff.mpr ⟨_, jsonFormat_record (by decide) rfl, ?_⟩
  exact (Fields.withDefault_eq rfl).trans hrules

theorem Config.ofJson?_toJson {c : Config} (hc : c.storage.IsSized) :
    ofJson? c.toJson = some c := by
  refine read?_eq_some_iff.mpr ⟨_, jsonFormat_record (by decide) rfl, ?_, ?_, ?_, ?_, ?_⟩
  · exact (Fields.withDefault_eq rfl).trans (StorageConfig.read?_toJson hc)
  · exact (Fields.withDefault_eq rfl).trans c.retention.read?_toJson
  · exact (Fields.withDefault_eq rfl).trans (readTagRules?_toJson c.tagRules)
  · exact (Fields.withDefault_eq rfl).trans c.webhook.read?_toJson
  · exact (Fields.withDefault_eq rfl).trans c.logging.read?_toJson

theorem plain_object_iff {fields : List (String × Json)} :
    Plain (.object fields) ↔ ∀ f ∈ fields, Plain f.2 := by
  refine ⟨fun h => ?_, .object⟩
  cases h
  assumption

theorem TagRule.plain_toJson (r : TagRule) : Plain r.toJson := by
  simp [toJson, plain_object_iff, Plain.string, plain_strings]

theorem Config.plain_toJson (c : Config) : Plain c.toJson := by
  have hnumber (n : UInt64) : Plain (ofUInt64 n) := .int n.toNat
  simp [toJson, StorageConfig.toJson, RetentionConfig.toJson, WebhookConfig.toJson,
    LoggingConfig.toJson, plain_object_iff, Plain.string, Plain.bool, Plain.int, hnumber,
    plain_optional, plain_array TagRule.plain_toJson]

theorem isSized_of_signed {v : Json} {i : Int} (h : jsonFormat.signed v = some i) :
    -2147483648 ≤ i ∧ i ≤ 2147483647 := by
  rw [jsonFormat] at h
  cases v with
  | int j =>
    simp only [Option.ite_none_right_eq_some, Bool.and_eq_true, decide_eq_true_eq,
      Option.some.injEq] at h
    exact h.2 ▸ h.1
  | _ => cases h

theorem Config.isSized_of_ofJson? {v : Json} {c : Config} (h : ofJson? v = some c) :
    c.storage.IsSized := by
  obtain ⟨r, -, hstorage, -⟩ := read?_eq_some_iff.mp h
  rw [Fields.withDefault] at hstorage
  split at hstorage
  · obtain ⟨r', -, -, -, hlevel⟩ := StorageConfig.read?_eq_some_iff.mp hstorage
    rw [Fields.withDefault] at hlevel
    split at hlevel
    · exact isSized_of_signed hlevel
    · rw [StorageConfig.IsSized, ← Option.some.inj hlevel]
      decide
  · rw [← Option.some.inj hstorage, StorageConfig.IsSized]
    decide

namespace Search

open Query

def Legible {α : Type} (x : Except Unsearchable α) : Prop :=
  x ≠ .error .unreadableMetadata

theorem legible_ok {α : Type} (a : α) : Legible (.ok a) :=
  nofun

theorem Legible.bind {α β : Type} {x : Except Unsearchable α} {f : α → Except Unsearchable β}
    (hx : Legible x) (hf : ∀ a, Legible (f a)) : Legible (x >>= f) := by
  cases x with
  | error why => exact fun h => hx (congrArg Except.error (Except.error.inj h))
  | ok a => exact hf a

theorem legible_contains? (v text : List Char) : Legible (contains? v text) := by
  unfold contains?
  dsimp only
  split
  · exact nofun
  · exact legible_ok _

theorem legible_anyContains? (v : List Char) (texts : List (List Char)) :
    Legible (anyContains? v texts) := by
  induction texts with
  | nil => exact legible_ok false
  | cons text texts ih =>
    refine (legible_contains? v text).bind fun found => ?_
    cases found with
    | true => exact legible_ok true
    | false => exact ih

theorem legible_anyItem? {v : List Char} {l : List Json} (hl : ∀ item ∈ l, ¬ isStray item) :
    Legible (anyItem? v l) := by
  induction l with
  | nil => exact legible_ok false
  | cons item l ih =>
    obtain ⟨hitem, hrest⟩ := List.forall_mem_cons.mp hl
    rcases itemTexts?_cases item with ⟨hstray, -⟩ | ⟨-, texts, htexts⟩
    · exact absurd hstray hitem
    · rw [anyItem?, htexts]
      refine (legible_anyContains? v texts).bind fun found => ?_
      cases found with
      | true => exact legible_ok true
      | false => exact ih hrest

section Rows

variable {t : Tables} {r : Row} {p : Parties} (hr : r.metadata = .json p.toJson)

include hr

theorem withMetadata_of_stored (f : Json → Except Unsearchable Bool) :
    withMetadata r f = f p.toJson := by
  rw [withMetadata, hr, column?_toJson]

theorem legible_fieldHolds? (f : Field) (value : String) : Legible (fieldHolds? t r f value) := by
  have hlisted (names : List String) (hnames : ∃ f : Field, f.lists = names) :
      Legible (withMetadata r fun m => anyListed? value.toList m names) := by
    obtain ⟨f, rfl⟩ := hnames
    rw [withMetadata_of_stored hr, anyListed?_eq_anyItem?]
    refine legible_anyItem? fun item hitem => ?_
    obtain ⟨a, rfl⟩ := mem_items_toJson hitem
    exact not_isStray_address a
  cases f with
  | sender =>
    rw [fieldHolds?, withMetadata_of_stored hr]
    exact legible_anyContains? _ _
  | recipient => exact hlisted _ ⟨.recipient, rfl⟩
  | copy => exact hlisted _ ⟨.copy, rfl⟩
  | blindCopy => exact hlisted _ ⟨.blindCopy, rfl⟩
  | replyTo => exact hlisted _ ⟨.replyTo, rfl⟩
  | addressed => exact hlisted _ ⟨.addressed, rfl⟩
  | subject => exact legible_contains? _ _
  | messageId => exact legible_ok _
  | tag => exact legible_ok _

theorem legible_conditionHolds? (c : Condition) : Legible (conditionHolds? t r c) := by
  cases c with
  | text value => exact legible_anyContains? _ _
  | field f value => exact legible_fieldHolds? hr f value
  | flag f => exact legible_ok _
  | date bound d => cases bound <;> exact legible_ok _

theorem legible_allHold? (terms : List Term) : Legible (allHold? t r terms) := by
  induction terms with
  | nil => exact legible_ok true
  | cons term terms ih =>
    refine (legible_conditionHolds? hr term.condition).bind fun held => ?_
    split
    · exact ih
    · exact legible_ok false

end Rows

theorem legible_rowsWhere {p : Row → Except Unsearchable Bool} {rows : List Row}
    (h : ∀ r ∈ rows, Legible (p r)) : Legible (rowsWhere p none rows) := by
  induction rows with
  | nil => exact legible_ok []
  | cons r rows ih =>
    obtain ⟨hr, hrows⟩ := List.forall_mem_cons.mp h
    have hothers := ih hrows
    cases hfirst : p r with
    | error why =>
      rw [rowsWhere_none_cons_of_error hfirst]
      exact fun hfailed => hr (hfirst.trans (congrArg Except.error (Except.error.inj hfailed)))
    | ok b =>
      rw [rowsWhere_none_cons hfirst]
      cases b with
      | false => exact hothers
      | true => exact hothers.bind fun others => legible_ok (r :: others)

theorem legible_rows? {t : Tables}
    (ht : ∀ r ∈ t.messages, ∃ p : Parties, r.metadata = .json p.toJson) (terms : List Term) :
    Legible (rows? t false none terms) := by
  rw [rows?]
  split
  · intro h
    cases h
  · split
    · exact legible_ok []
    · rw [ite_self]
      refine legible_rowsWhere fun r hr => ?_
      obtain ⟨p, hp⟩ := ht r (Tables.mem_newestFirst.mp hr)
      exact legible_allHold? hp _

end Search

structure RecordsLossless : Prop where
  parties : Lossless Parties.toJson Parties.ofJson? fun _ => True
  summary : Lossless Summary.toJson Summary.ofJson? fun s => s.created.IsRepresentable
  message : Lossless Message.toJson Message.ofJson? fun m => m.date.IsRepresentable
  part : Lossless PartSummary.toJson PartSummary.ofJson? fun _ => True
  stats : Lossless Stats.toJson Stats.ofJson? fun _ => True
  searchResults : Lossless SearchResults.toJson SearchResults.ofJson?
    fun found => ∀ s ∈ found.messages, s.created.IsRepresentable
  unsubscribe : Lossless Unsubscribe.toJson Unsubscribe.ofJson? fun _ => True
  address : Lossless Address.toJson Address.ofJson? fun _ => True
  config : Lossless Config.toJson Config.ofJson? fun c => c.storage.IsSized

theorem recordsLossless : RecordsLossless where
  parties := .of_plain Parties.plain_toJson (fun p _ => p.ofJson?_toJson) fun _ _ _ => trivial
  summary := .of_plain Summary.plain_toJson (fun _ => Summary.ofJson?_toJson)
    fun _ _ => Summary.isRepresentable_of_ofJson?
  message := .of_plain Message.plain_toJson (fun _ => Message.ofJson?_toJson)
    fun _ _ => Message.isRepresentable_of_ofJson?
  part := .of_plain PartSummary.plain_toJson (fun p _ => p.ofJson?_toJson) fun _ _ _ => trivial
  stats := .of_plain Stats.plain_toJson (fun s _ => s.ofJson?_toJson) fun _ _ _ => trivial
  searchResults := .of_plain SearchResults.plain_toJson (fun _ => SearchResults.ofJson?_toJson)
    fun _ _ => SearchResults.isRepresentable_of_ofJson?
  unsubscribe := .of_plain Unsubscribe.plain_toJson (fun u _ => u.ofJson?_toJson)
    fun _ _ _ => trivial
  address := .of_plain Address.plain_toJson (fun a _ => a.ofJson?_toJson) fun _ _ _ => trivial
  config := .of_plain Config.plain_toJson (fun _ => Config.ofJson?_toJson)
    fun _ _ => Config.isSized_of_ofJson?

namespace Mailbox

structure ShowsStored (m : Mailbox) : Prop where
  metadata : ∀ r ∈ m.tables.messages, ∃ raw e, Envelope.parse raw = .ok e ∧
    m.tables.payload? r.id = some (Zstd.compress raw) ∧
    r.metadata.parties? = some (Parties.ofEnvelope e)
  list : ∀ now offset limit, ∃ l, (m.list now offset limit).1 = .ok l ∧
    l.map Summary.id = (Tables.page offset limit m.tables.newestFirst).map Row.id
  search : ∀ now query offset limit,
    (m.search now query offset limit).1 ≠ .error (.unsearchable .unreadableMetadata) ∧
    ∀ found, (m.search now query offset limit).1 = .ok found →
      ∃ rows, m.tables.matching? query = .ok rows ∧
        found.messages.map Summary.id = (Tables.page offset limit rows).map Row.id

theorem metadata_of_shelved {t : Tables} (ht : t.Shelved) {r : Row} (hr : r ∈ t.messages) :
    ∃ raw e, Envelope.parse raw = .ok e ∧ t.payload? r.id = some (Zstd.compress raw) ∧
      r.metadata = .json (Parties.ofEnvelope e).toJson := by
  obtain ⟨p, hpayload, raw, e, created, hparse, -, rfl, hrow⟩ :=
    ht.payload?_of_row? (ht.row?_of_mem hr)
  refine ⟨raw, e, hparse, hpayload, ?_⟩
  rw [hrow]
  simp only [rowOf, Document.ofText, Parties.parse?_render]

theorem showsStored_of_shelved {m : Mailbox} (hopen : m.closed = false)
    (ht : m.tables.Shelved) : m.ShowsStored := by
  have hids {rows : List Row} (hrows : rows.Sublist m.tables.newestFirst) :
      (m.tables.summaries rows).map Summary.id = rows.map Row.id :=
    Tables.map_of_forall₂ (ht.shows (Tables.mem_of_sublist hrows)) fun _ _ h => h.id
  constructor
  case metadata =>
    intro r hr
    obtain ⟨raw, e, hparse, hpayload, hmetadata⟩ := metadata_of_shelved ht hr
    refine ⟨raw, e, hparse, hpayload, ?_⟩
    rw [hmetadata, Document.parties?, Parties.ofJson?_toJson]
  case list =>
    intro now offset limit
    refine ⟨_, by rw [Mailbox.list, look_of_open hopen], ?_⟩
    exact hids (Tables.page_sublist _ _ _)
  case search =>
    intro now query offset limit
    constructor
    · have hstored : ∀ r ∈ m.tables.messages, ∃ p : Parties, r.metadata = .json p.toJson := by
        intro r hr
        obtain ⟨raw, e, -, -, hmetadata⟩ := metadata_of_shelved ht hr
        exact ⟨_, hmetadata⟩
      have hrows := Search.legible_rows? hstored (Query.parse query)
      rw [Mailbox.search, look_of_open hopen, Tables.search?_eq, Tables.matching?]
      cases hfound : Search.rows? m.tables false none (Query.parse query) with
      | ok rows =>
        intro hfailed
        cases hfailed
      | error why =>
        rintro ⟨⟩
        exact hrows hfound
    · intro found hfound
      obtain ⟨rows, hrows, rfl⟩ := search_cases hopen hfound
      refine ⟨rows, hrows, ?_⟩
      exact hids ((Tables.page_sublist offset limit rows).trans (Tables.matching?_sublist hrows))

theorem lossless_run {t : Tables} (ht : t.Reached) {config : Config} {webhook : Bool}
    {start : Instant} {m : Mailbox} (hopen : open? config t webhook start = .ok m)
    (requests : List Request) : RecordsLossless ∧ (m.run requests).ShowsStored := by
  have hsound := (Tables.Reached.session ht hopen requests).sound
  exact ⟨recordsLossless, showsStored_of_shelved (closed_run hopen requests) hsound.shelved⟩

theorem lossless_run_stored :
    let m : Mailbox := { config := {}, rules := ⟨[]⟩ }
    let raw : Bytes := [70, 114, 111, 109, 58, 32, 97, 64, 98, 10, 10, 120]
    open? {} {} false ⟨0, 0⟩ = .ok m ∧ RecordsLossless ∧
      (m.run [⟨⟨1, 0⟩, .store "a" raw, by decide⟩]).ShowsStored :=
  have hopen : open? {} {} false ⟨0, 0⟩ = .ok { config := {}, rules := ⟨[]⟩ } := rfl
  ⟨hopen, lossless_run .empty hopen _⟩

end Mailbox

end Letterbox
