import Letterbox.Config.Format

namespace Letterbox

open Json

def jsonFormat : Format Json where
  record := record?
  items
    | .array l => some l
    | _ => none
  isNull
    | .null => true
    | _ => false
  string := string?
  bool := bool?
  unsigned := uint64?
  signed
    | .int i => if -2147483648 ≤ i && i ≤ 2147483647 then some i else none
    | _ => none

namespace StorageConfig

def toJson (c : StorageConfig) : Json :=
  .object [
    ("data_file", .optional .string c.dataFile),
    ("use_message_dates", .bool c.useMessageDates),
    ("compression_level", .int c.compressionLevel)]

end StorageConfig

namespace RetentionConfig

def toJson (c : RetentionConfig) : Json :=
  .object [
    ("max_messages", ofUInt64 c.maxMessages),
    ("max_age_hours", .optional ofUInt64 c.maxAgeHours),
    ("interval_secs", ofUInt64 c.intervalSeconds),
    ("idle_after_secs", ofUInt64 c.idleAfterSeconds)]

end RetentionConfig

namespace TagRule

def toJson (r : TagRule) : Json :=
  .object [("pattern", .string r.pattern), ("tags", strings r.tags)]

end TagRule

namespace WebhookConfig

def toJson (c : WebhookConfig) : Json :=
  .object [("url", .optional .string c.url), ("timeout_secs", ofUInt64 c.timeoutSeconds)]

end WebhookConfig

namespace LoggingConfig

def toJson (c : LoggingConfig) : Json :=
  .object [("level", .string c.level), ("format", .string c.format)]

end LoggingConfig

namespace Config

def toJson (c : Config) : Json :=
  .object [
    ("storage", c.storage.toJson),
    ("retention", c.retention.toJson),
    ("tagging", .object [("rules", .array (c.tagRules.map TagRule.toJson))]),
    ("webhook", c.webhook.toJson),
    ("logging", c.logging.toJson)]

def ofJson? : Json → Option Config :=
  Config.read? jsonFormat

end Config

end Letterbox
