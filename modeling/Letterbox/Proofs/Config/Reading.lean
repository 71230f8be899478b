import Letterbox.Config.Layers
import Letterbox.Proofs.Json.Record

namespace Letterbox

section Sections

variable {V : Type} {f : Format V} {v : V}

theorem StorageConfig.read?_eq_some_iff {c : StorageConfig} :
    StorageConfig.read? f v = some c ↔
      ∃ r, f.record ["data_file", "use_message_dates", "compression_level"] v = some r ∧
        r.withDefault "data_file" none (f.orNull f.string) = some c.dataFile ∧
        r.withDefault "use_message_dates" false f.bool = some c.useMessageDates ∧
        r.withDefault "compression_level" 3 f.signed = some c.compressionLevel := by
  cases c
  simp [StorageConfig.read?, Option.bind_eq_some_iff, -Bool.exists_bool]

theorem RetentionConfig.read?_eq_some_iff {c : RetentionConfig} :
    RetentionConfig.read? f v = some c ↔
      ∃ r, f.record ["max_messages", "max_age_hours", "interval_secs", "idle_after_secs"] v =
          some r ∧
        r.withDefault "max_messages" 500 f.unsigned = some c.maxMessages ∧
        r.withDefault "max_age_hours" none (f.orNull f.unsigned) = some c.maxAgeHours ∧
        r.withDefault "interval_secs" 60 f.unsigned = some c.intervalSeconds ∧
        r.withDefault "idle_after_secs" 300 f.unsigned = some c.idleAfterSeconds := by
  cases c
  simp [RetentionConfig.read?, Option.bind_eq_some_iff]

theorem readTagRules?_eq_some_iff {rules : List TagRule} :
    readTagRules? f v = some rules ↔ ∃ r, f.record ["rules"] v = some r ∧
      r.withDefault "rules" [] (f.list (TagRule.read? f)) = some rules := by
  simp [readTagRules?, Option.bind_eq_some_iff]

theorem WebhookConfig.read?_eq_some_iff {c : WebhookConfig} :
    WebhookConfig.read? f v = some c ↔ ∃ r, f.record ["url", "timeout_secs"] v = some r ∧
      r.withDefault "url" none (f.orNull f.string) = some c.url ∧
      r.withDefault "timeout_secs" 10 f.unsigned = some c.timeoutSeconds := by
  cases c
  simp [WebhookConfig.read?, Option.bind_eq_some_iff]

theorem LoggingConfig.read?_eq_some_iff {c : LoggingConfig} :
    LoggingConfig.read? f v = some c ↔ ∃ r, f.record ["level", "format"] v = some r ∧
      r.withDefault "level" "info" f.string = some c.level ∧
      r.withDefault "format" "pretty" f.string = some c.format := by
  cases c
  simp [LoggingConfig.read?, Option.bind_eq_some_iff]

theorem Config.read?_eq_some_iff {c : Config} :
    Config.read? f v = some c ↔
      ∃ r, f.record ["storage", "retention", "tagging", "webhook", "logging"] v = some r ∧
        r.withDefault "storage" {} (StorageConfig.read? f) = some c.storage ∧
        r.withDefault "retention" {} (RetentionConfig.read? f) = some c.retention ∧
        r.withDefault "tagging" [] (readTagRules? f) = some c.tagRules ∧
        r.withDefault "webhook" {} (WebhookConfig.read? f) = some c.webhook ∧
        r.withDefault "logging" {} (LoggingConfig.read? f) = some c.logging := by
  cases c
  simp [Config.read?, Option.bind_eq_some_iff]

end Sections

namespace Layers

variable {fields : List (String × Toml)} {v : Toml} {s : String}

theorem record_putField {names : List String} {r : Fields Toml}
    (h : format.record names (.table fields) = some r) (name : String) (v : Toml) :
    format.record names (.table (putField name v fields)) = some (r.put name v) :=
  Fields.ofNamed?_putField h name v

theorem orNull_string (h : asString v = some s) :
    format.orNull format.string v = some (some s) := by
  have hstring : format.string v = some s := h
  have hnull : format.isNull v = false := by cases v <;> first | rfl | cases h
  simp [Format.orNull, hstring, hnull]

theorem read?_level {c : LoggingConfig} (h : LoggingConfig.read? format (.table fields) = some c)
    (hv : asString v = some s) : LoggingConfig.read? format (.table (putField "level" v fields)) =
      some { c with level := s } := by
  obtain ⟨r, hr, -, hformat⟩ := LoggingConfig.read?_eq_some_iff.mp h
  have hstring : format.string v = some s := hv
  refine LoggingConfig.read?_eq_some_iff.mpr ⟨_, record_putField hr "level" v, ?_⟩
  simp [Fields.withDefault_put, hstring, hformat]

theorem read?_format {c : LoggingConfig} (h : LoggingConfig.read? format (.table fields) = some c)
    (hv : asString v = some s) :
    LoggingConfig.read? format (.table (putField "format" v fields)) =
      some { c with format := s } := by
  obtain ⟨r, hr, hlevel, -⟩ := LoggingConfig.read?_eq_some_iff.mp h
  have hstring : format.string v = some s := hv
  refine LoggingConfig.read?_eq_some_iff.mpr ⟨_, record_putField hr "format" v, ?_⟩
  simp [Fields.withDefault_put, hstring, hlevel]

theorem read?_url {c : WebhookConfig} (h : WebhookConfig.read? format (.table fields) = some c)
    (hv : asString v = some s) : WebhookConfig.read? format (.table (putField "url" v fields)) =
      some { c with url := some s } := by
  obtain ⟨r, hr, -, htimeout⟩ := WebhookConfig.read?_eq_some_iff.mp h
  refine WebhookConfig.read?_eq_some_iff.mpr ⟨_, record_putField hr "url" v, ?_⟩
  simp [Fields.withDefault_put, orNull_string hv, htimeout]

theorem read?_dataFile {c : StorageConfig} (h : StorageConfig.read? format (.table fields) = some c)
    (hv : asString v = some s) :
    StorageConfig.read? format (.table (putField "data_file" v fields)) =
      some { c with dataFile := some s } := by
  obtain ⟨r, hr, -, hdates, hlevel⟩ := StorageConfig.read?_eq_some_iff.mp h
  refine StorageConfig.read?_eq_some_iff.mpr ⟨_, record_putField hr "data_file" v, ?_⟩
  simp [Fields.withDefault_put, orNull_string hv, hdates, hlevel]

section Numbers

variable {n : UInt64} (hv : asUnsigned v = some n)

include hv

theorem orNull_unsigned : format.orNull format.unsigned v = some (some n) := by
  have hunsigned : format.unsigned v = some n := hv
  have hnull : format.isNull v = false := by cases v <;> first | rfl | cases hv
  simp [Format.orNull, hunsigned, hnull]

theorem read?_retentionField {c : RetentionConfig}
    (h : RetentionConfig.read? format (.table fields) = some c) :
    RetentionConfig.read? format (.table (putField "max_messages" v fields)) =
        some { c with maxMessages := n } ∧
      RetentionConfig.read? format (.table (putField "max_age_hours" v fields)) =
        some { c with maxAgeHours := some n } ∧
      RetentionConfig.read? format (.table (putField "interval_secs" v fields)) =
        some { c with intervalSeconds := n } ∧
      RetentionConfig.read? format (.table (putField "idle_after_secs" v fields)) =
        some { c with idleAfterSeconds := n } := by
  obtain ⟨r, hr, hmax, hage, hinterval, hidle⟩ := RetentionConfig.read?_eq_some_iff.mp h
  have hunsigned : format.unsigned v = some n := hv
  refine ⟨?_, ?_, ?_, ?_⟩ <;>
    refine RetentionConfig.read?_eq_some_iff.mpr ⟨_, record_putField hr _ v, ?_⟩ <;>
    simp [Fields.withDefault_put, hunsigned, orNull_unsigned hv, hmax, hage, hinterval, hidle]

theorem read?_timeout {c : WebhookConfig}
    (h : WebhookConfig.read? format (.table fields) = some c) :
    WebhookConfig.read? format (.table (putField "timeout_secs" v fields)) =
      some { c with timeoutSeconds := n } := by
  obtain ⟨r, hr, hurl, -⟩ := WebhookConfig.read?_eq_some_iff.mp h
  have hunsigned : format.unsigned v = some n := hv
  refine WebhookConfig.read?_eq_some_iff.mpr ⟨_, record_putField hr "timeout_secs" v, ?_⟩
  simp [Fields.withDefault_put, hunsigned, hurl]

end Numbers

theorem read?_compressionLevel {c : StorageConfig}
    (h : StorageConfig.read? format (.table fields) = some c) {i : Int}
    (hv : asSigned v = some i) :
    StorageConfig.read? format (.table (putField "compression_level" v fields)) =
      some { c with compressionLevel := i } := by
  obtain ⟨r, hr, hfile, hdates, -⟩ := StorageConfig.read?_eq_some_iff.mp h
  have hsigned : format.signed v = some i := hv
  refine StorageConfig.read?_eq_some_iff.mpr ⟨_, record_putField hr "compression_level" v, ?_⟩
  simp [Fields.withDefault_put, hsigned, hfile, hdates]

theorem read?_useMessageDates {c : StorageConfig}
    (h : StorageConfig.read? format (.table fields) = some c) {b : Bool}
    (hv : asBool v = some b) :
    StorageConfig.read? format (.table (putField "use_message_dates" v fields)) =
      some { c with useMessageDates := b } := by
  obtain ⟨r, hr, hfile, -, hlevel⟩ := StorageConfig.read?_eq_some_iff.mp h
  have hbool : format.bool v = some b := hv
  refine StorageConfig.read?_eq_some_iff.mpr ⟨_, record_putField hr "use_message_dates" v, ?_⟩
  simp [Fields.withDefault_put, hbool, hfile, hlevel]

theorem read?_storage {c : Config} (h : Config.read? format (.table fields) = some c)
    {storage : StorageConfig} (hv : StorageConfig.read? format v = some storage) :
    Config.read? format (.table (putField "storage" v fields)) =
      some { c with storage := storage } := by
  obtain ⟨r, hr, -, hrest⟩ := Config.read?_eq_some_iff.mp h
  refine Config.read?_eq_some_iff.mpr ⟨_, record_putField hr "storage" v, ?_⟩
  simp [Fields.withDefault_put, hv, hrest]

theorem read?_retention {c : Config} (h : Config.read? format (.table fields) = some c)
    {retention : RetentionConfig} (hv : RetentionConfig.read? format v = some retention) :
    Config.read? format (.table (putField "retention" v fields)) =
      some { c with retention := retention } := by
  obtain ⟨r, hr, hstorage, -, hrest⟩ := Config.read?_eq_some_iff.mp h
  refine Config.read?_eq_some_iff.mpr ⟨_, record_putField hr "retention" v, ?_⟩
  simp [Fields.withDefault_put, hv, hstorage, hrest]

theorem read?_webhook {c : Config} (h : Config.read? format (.table fields) = some c)
    {webhook : WebhookConfig} (hv : WebhookConfig.read? format v = some webhook) :
    Config.read? format (.table (putField "webhook" v fields)) =
      some { c with webhook := webhook } := by
  obtain ⟨r, hr, hstorage, hretention, hrules, -, hlogging⟩ := Config.read?_eq_some_iff.mp h
  refine Config.read?_eq_some_iff.mpr ⟨_, record_putField hr "webhook" v, ?_⟩
  simp [Fields.withDefault_put, hv, hstorage, hretention, hrules, hlogging]

theorem read?_logging {c : Config} (h : Config.read? format (.table fields) = some c)
    {logging : LoggingConfig} (hv : LoggingConfig.read? format v = some logging) :
    Config.read? format (.table (putField "logging" v fields)) =
      some { c with logging := logging } := by
  obtain ⟨r, hr, hstorage, hretention, hrules, hwebhook, -⟩ := Config.read?_eq_some_iff.mp h
  refine Config.read?_eq_some_iff.mpr ⟨_, record_putField hr "logging" v, ?_⟩
  simp [Fields.withDefault_put, hv, hstorage, hretention, hrules, hwebhook]

end Layers

end Letterbox
