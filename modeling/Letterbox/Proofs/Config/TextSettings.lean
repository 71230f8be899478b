import Letterbox.Proofs.Config.Overlay
import Letterbox.Proofs.Config.Written

namespace Letterbox

inductive TextSetting where
  | level
  | format
  | url
  | dataFile
  deriving DecidableEq

namespace TextSetting

open Layers

def variableName : TextSetting → String
  | level => "MAILBOX__LOGGING__LEVEL"
  | format => "MAILBOX__LOGGING__FORMAT"
  | url => "MAILBOX__WEBHOOK__URL"
  | dataFile => "MAILBOX__STORAGE__DATA_FILE"

def sectionName : TextSetting → String
  | level | format => "logging"
  | url => "webhook"
  | dataFile => "storage"

def fieldName : TextSetting → String
  | level => "level"
  | format => "format"
  | url => "url"
  | dataFile => "data_file"

def set (s : String) (c : Config) : TextSetting → Config
  | level => { c with logging := { c.logging with level := s } }
  | format => { c with logging := { c.logging with format := s } }
  | url => { c with webhook := { c.webhook with url := some s } }
  | dataFile => { c with storage := { c.storage with dataFile := some s } }

def reset (c : Config) : TextSetting → Config
  | level | format => { c with logging := {} }
  | url => { c with webhook := {} }
  | dataFile => { c with storage := {} }

theorem variablePath?_variableName (x : TextSetting) :
    variablePath? x.variableName = some [.name x.sectionName.toList, .name x.fieldName.toList] := by
  cases x <;> decide +kernel

theorem lowered_sectionName (x : TextSetting) : lowered x.sectionName = x.sectionName := by
  cases x <;> decide +kernel

theorem lowered_fieldName (x : TextSetting) : lowered x.fieldName = x.fieldName := by
  cases x <;> decide +kernel

theorem read?_putField (x : TextSetting) {fields : List (String × Toml)} {c : Config}
    (h : Config.read? Layers.format (.table fields) = some c) {v : Toml} {s : String}
    (hv : asString v = some s) :
    Config.read? Layers.format (.table (putField x.sectionName
        (.table (putField x.fieldName v (sectionFields x.sectionName fields))) fields)) =
      some (x.set s (if isListed x.sectionName fields then x.reset c else c)) := by
  obtain ⟨r, hr, hstorage, -, -, hwebhook, hlogging⟩ := Config.read?_eq_some_iff.mp h
  obtain ⟨-, rfl⟩ := Fields.ofNamed?_eq_some_iff.mp hr
  have hstorage' := read_sectionFields hstorage rfl
    fun hread => ⟨_, (StorageConfig.read?_eq_some_iff.mp hread).imp fun _ => And.left⟩
  have hwebhook' := read_sectionFields hwebhook rfl
    fun hread => ⟨_, (WebhookConfig.read?_eq_some_iff.mp hread).imp fun _ => And.left⟩
  have hlogging' := read_sectionFields hlogging rfl
    fun hread => ⟨_, (LoggingConfig.read?_eq_some_iff.mp hread).imp fun _ => And.left⟩
  cases x with
  | level =>
    rw [sectionName, fieldName, read?_logging h (read?_level hlogging' hv)]
    split <;> rfl
  | format =>
    rw [sectionName, fieldName, read?_logging h (read?_format hlogging' hv)]
    split <;> rfl
  | url =>
    rw [sectionName, fieldName, read?_webhook h (read?_url hwebhook' hv)]
    split <;> rfl
  | dataFile =>
    rw [sectionName, fieldName, read?_storage h (read?_dataFile hstorage' hv)]
    split <;> rfl

theorem withVariable_variableName (x : TextSetting) (s : String) (fields : List (String × Toml)) :
    withVariable (.table fields) x.variableName s = some (.table (putField x.sectionName
      (.table (putField x.fieldName (ofVariable s) (sectionFields x.sectionName fields)))
      fields)) := by
  rw [withVariable, variablePath?_variableName]
  exact place_pair x.lowered_sectionName x.lowered_fieldName (ofVariable_ne_table s) fields

def isListedIn (x : TextSetting) (file : Option String) : Bool :=
  match base? file with
  | some (.table fields) => isListed x.sectionName fields
  | _ => false

end TextSetting

theorem Config.load?_variable (x : TextSetting) (file : Option String) (s : String) (c : Config)
    (hfile : Config.load? file [] = some c) :
    Config.load? file [(x.variableName, s)] =
        some (x.set (Layers.written s) (if x.isListedIn file then x.reset c else c)) ∧
      (Layers.IsPlain s ∨ s = "true" ∨ s = "false" ∨
        (∃ i : Int, -9223372036854775808 ≤ i ∧ i ≤ 9223372036854775807 ∧
          s = String.ofList (Text.intDigits i)) → Layers.written s = s) := by
  constructor
  · rw [Layers.load?_eq, Option.bind_eq_some_iff] at hfile
    obtain ⟨base, hbase, hread⟩ := hfile
    obtain ⟨fields, rfl⟩ := Layers.table_of_base? hbase
    have hlisted : x.isListedIn file = Layers.isListed x.sectionName fields := by
      rw [TextSetting.isListedIn, hbase]
    rw [Layers.load?_eq, hbase, Option.bind_some, List.foldlM_cons, x.withVariable_variableName,
      Option.bind_eq_bind, Option.bind_some, List.foldlM_nil, Option.pure_def, Option.bind_some,
      x.read?_putField hread (Layers.asString_ofVariable s), hlisted]
  · rintro (hplain | rfl | rfl | ⟨i, hlow, hhigh, rfl⟩)
    · exact Layers.written_of_isPlain hplain
    · decide +kernel
    · decide +kernel
    · exact Layers.written_intDigits hlow hhigh

theorem Config.load?_variable_path :
    Config.load? (some "[storage]\nuse_message_dates = true\n") [] =
        some { storage := { useMessageDates := true } } ∧
      Config.load? (some "[storage]\nuse_message_dates = true\n")
        [("MAILBOX__STORAGE__DATA_FILE", "1/mail.db")] =
          some { storage := { dataFile := some "1/mail.db", useMessageDates := true } } := by
  have hfile : Config.load? (some "[storage]\nuse_message_dates = true\n") [] =
      some { storage := { useMessageDates := true } } := by decide +kernel
  obtain ⟨hload, hsame⟩ := Config.load?_variable .dataFile _ "1/mail.db" _ hfile
  have hplain : Layers.IsPlain "1/mail.db" :=
    ⟨by decide +kernel, mt (Layers.isSome_read?_iff _).mpr (by decide +kernel)⟩
  have hlisted : TextSetting.isListedIn .dataFile (some "[storage]\nuse_message_dates = true\n") =
      false := by decide +kernel
  rw [hsame (Or.inl hplain), hlisted] at hload
  exact ⟨hfile, hload⟩

theorem Config.load?_variable_rewritten :
    Config.load? none [("MAILBOX__STORAGE__DATA_FILE", "007")] =
        some { storage := { dataFile := some "7" } } ∧
      Config.load? (some "logging = [\"warn\", \"json\"]") [] =
        some { logging := { level := "warn", format := "json" } } ∧
      Config.load? (some "logging = [\"warn\", \"json\"]") [("MAILBOX__LOGGING__LEVEL", "debug")] =
        some { logging := { level := "debug", format := "pretty" } } := by
  decide +kernel

end Letterbox
