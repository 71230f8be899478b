import Letterbox.Config.Basic
import Letterbox.Json.Record

namespace Letterbox

structure Format (V : Type) where
  record : List String → V → Option (Fields V)
  items : V → Option (List V)
  isNull : V → Bool
  string : V → Option String
  bool : V → Option Bool
  unsigned : V → Option UInt64
  signed : V → Option Int

namespace Format

variable {V α : Type}

def orNull (f : Format V) (read : V → Option α) (v : V) : Option (Option α) :=
  if f.isNull v then some none else (read v).map some

def list (f : Format V) (read : V → Option α) (v : V) : Option (List α) :=
  (f.items v).bind (readItems read)

end Format

variable {V : Type}

def StorageConfig.read? (f : Format V) (v : V) : Option StorageConfig := do
  let r ← f.record ["data_file", "use_message_dates", "compression_level"] v
  return {
    dataFile := ← r.withDefault "data_file" none (f.orNull f.string)
    useMessageDates := ← r.withDefault "use_message_dates" false f.bool
    compressionLevel := ← r.withDefault "compression_level" 3 f.signed }

def RetentionConfig.read? (f : Format V) (v : V) : Option RetentionConfig := do
  let r ← f.record ["max_messages", "max_age_hours", "interval_secs", "idle_after_secs"] v
  return {
    maxMessages := ← r.withDefault "max_messages" 500 f.unsigned
    maxAgeHours := ← r.withDefault "max_age_hours" none (f.orNull f.unsigned)
    intervalSeconds := ← r.withDefault "interval_secs" 60 f.unsigned
    idleAfterSeconds := ← r.withDefault "idle_after_secs" 300 f.unsigned }

def TagRule.read? (f : Format V) (v : V) : Option TagRule := do
  let r ← f.record ["pattern", "tags"] v
  return {
    pattern := ← r.required "pattern" f.string
    tags := ← r.required "tags" (f.list f.string) }

def readTagRules? (f : Format V) (v : V) : Option (List TagRule) := do
  let r ← f.record ["rules"] v
  r.withDefault "rules" [] (f.list (TagRule.read? f))

def WebhookConfig.read? (f : Format V) (v : V) : Option WebhookConfig := do
  let r ← f.record ["url", "timeout_secs"] v
  return {
    url := ← r.withDefault "url" none (f.orNull f.string)
    timeoutSeconds := ← r.withDefault "timeout_secs" 10 f.unsigned }

def LoggingConfig.read? (f : Format V) (v : V) : Option LoggingConfig := do
  let r ← f.record ["level", "format"] v
  return {
    level := ← r.withDefault "level" "info" f.string
    format := ← r.withDefault "format" "pretty" f.string }

def Config.read? (f : Format V) (v : V) : Option Config := do
  let r ← f.record ["storage", "retention", "tagging", "webhook", "logging"] v
  return {
    storage := ← r.withDefault "storage" {} (StorageConfig.read? f)
    retention := ← r.withDefault "retention" {} (RetentionConfig.read? f)
    tagRules := ← r.withDefault "tagging" [] (readTagRules? f)
    webhook := ← r.withDefault "webhook" {} (WebhookConfig.read? f)
    logging := ← r.withDefault "logging" {} (LoggingConfig.read? f) }

end Letterbox
