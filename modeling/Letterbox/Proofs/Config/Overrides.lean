import Letterbox.Proofs.Config.TextSettings

namespace Letterbox

inductive Setting where
  | text (x : TextSetting)
  | maxMessages
  | maxAgeHours
  | intervalSeconds
  | idleAfterSeconds
  | timeoutSeconds
  | compressionLevel
  | useMessageDates
  | tagRules
  deriving DecidableEq

namespace Setting

open Layers

def sectionName : Setting → String
  | text x => x.sectionName
  | maxMessages | maxAgeHours | intervalSeconds | idleAfterSeconds => "retention"
  | timeoutSeconds => "webhook"
  | compressionLevel | useMessageDates => "storage"
  | tagRules => "tagging"

def fieldName : Setting → String
  | text x => x.fieldName
  | maxMessages => "max_messages"
  | maxAgeHours => "max_age_hours"
  | intervalSeconds => "interval_secs"
  | idleAfterSeconds => "idle_after_secs"
  | timeoutSeconds => "timeout_secs"
  | compressionLevel => "compression_level"
  | useMessageDates => "use_message_dates"
  | tagRules => "rules"

def variableName : Setting → String
  | text x => x.variableName
  | maxMessages => "MAILBOX__RETENTION__MAX_MESSAGES"
  | maxAgeHours => "MAILBOX__RETENTION__MAX_AGE_HOURS"
  | intervalSeconds => "MAILBOX__RETENTION__INTERVAL_SECS"
  | idleAfterSeconds => "MAILBOX__RETENTION__IDLE_AFTER_SECS"
  | timeoutSeconds => "MAILBOX__WEBHOOK__TIMEOUT_SECS"
  | compressionLevel => "MAILBOX__STORAGE__COMPRESSION_LEVEL"
  | useMessageDates => "MAILBOX__STORAGE__USE_MESSAGE_DATES"
  | tagRules => "MAILBOX__TAGGING__RULES"

def siblings : Setting → List String
  | text .level | text .format => ["level", "format"]
  | text .url | timeoutSeconds => ["url", "timeout_secs"]
  | text .dataFile | compressionLevel | useMessageDates =>
    ["data_file", "use_message_dates", "compression_level"]
  | maxMessages | maxAgeHours | intervalSeconds | idleAfterSeconds =>
    ["max_messages", "max_age_hours", "interval_secs", "idle_after_secs"]
  | tagRules => ["rules"]

def given? (x : Setting) (file : Option String) : Option Toml := do
  let base ← base? file
  let fields ← Layers.format.record x.siblings
    ((section? x.sectionName (fieldsOf base)).getD (.table []))
  fields.value? x.fieldName

def clear (c : Config) : Setting → Config
  | text .level => { c with logging := { c.logging with level := "info" } }
  | text .format => { c with logging := { c.logging with format := "pretty" } }
  | text .url => { c with webhook := { c.webhook with url := none } }
  | text .dataFile => { c with storage := { c.storage with dataFile := none } }
  | maxMessages => { c with retention := { c.retention with maxMessages := 500 } }
  | maxAgeHours => { c with retention := { c.retention with maxAgeHours := none } }
  | intervalSeconds => { c with retention := { c.retention with intervalSeconds := 60 } }
  | idleAfterSeconds => { c with retention := { c.retention with idleAfterSeconds := 300 } }
  | timeoutSeconds => { c with webhook := { c.webhook with timeoutSeconds := 10 } }
  | compressionLevel => { c with storage := { c.storage with compressionLevel := 3 } }
  | useMessageDates => { c with storage := { c.storage with useMessageDates := false } }
  | tagRules => { c with tagRules := [] }

theorem variablePath?_and_lowered (x : Setting) :
    variablePath? x.variableName = some [.name x.sectionName.toList, .name x.fieldName.toList] ∧
      lowered x.sectionName = x.sectionName ∧ lowered x.fieldName = x.fieldName := by
  cases x with
  | text x => cases x <;> decide +kernel
  | _ => decide +kernel

theorem read_section {S : Type} {read : Toml → Option S} {d c : S} {name : String}
    {fields : List (String × Toml)}
    (h : ({ entries := fields, named := true } : Fields Toml).withDefault name d read = some c)
    (hempty : read (.table []) = some d) :
    read ((section? name fields).getD (.table [])) = some c := by
  rw [Fields.withDefault, ← section?] at h
  cases hv : section? name fields with
  | none =>
    rw [hv] at h
    exact hempty.trans h
  | some v =>
    rw [hv] at h
    exact h

theorem clear_of_not_given {file : Option String} {c : Config}
    (h : Config.load? file [] = some c) {x : Setting} (hx : x.given? file = none) :
    x.clear c = c := by
  rw [load?_eq, Option.bind_eq_some_iff] at h
  obtain ⟨base, hbase, hread⟩ := h
  obtain ⟨fields, rfl⟩ := table_of_base? hbase
  obtain ⟨r, hr, hstorage, hretention, hrules, hwebhook, hlogging⟩ :=
    Config.read?_eq_some_iff.mp hread
  obtain ⟨-, rfl⟩ := Fields.ofNamed?_eq_some_iff.mp hr
  obtain ⟨rs, hrs, hfile, hdates, hlevel⟩ :=
    StorageConfig.read?_eq_some_iff.mp (read_section hstorage rfl)
  obtain ⟨rr, hrr, hmax, hage, hinterval, hidle⟩ :=
    RetentionConfig.read?_eq_some_iff.mp (read_section hretention rfl)
  obtain ⟨rt, hrt, hlist⟩ := readTagRules?_eq_some_iff.mp (read_section hrules rfl)
  obtain ⟨rb, hrb, hurl, htimeout⟩ :=
    WebhookConfig.read?_eq_some_iff.mp (read_section hwebhook rfl)
  obtain ⟨rl, hrl, hname, hformat⟩ :=
    LoggingConfig.read?_eq_some_iff.mp (read_section hlogging rfl)
  have hnone {r : Fields Toml} (hr : Layers.format.record x.siblings
      ((section? x.sectionName fields).getD (.table [])) = some r) :
      r.value? x.fieldName = none := by
    simpa [given?, hbase, fieldsOf, hr] using hx
  cases x with
  | text x =>
    cases x with
    | level => rw [clear, ← Fields.withDefault_of_none (hnone hrl) hname]
    | format => rw [clear, ← Fields.withDefault_of_none (hnone hrl) hformat]
    | url => rw [clear, ← Fields.withDefault_of_none (hnone hrb) hurl]
    | dataFile => rw [clear, ← Fields.withDefault_of_none (hnone hrs) hfile]
  | maxMessages => rw [clear, ← Fields.withDefault_of_none (hnone hrr) hmax]
  | maxAgeHours => rw [clear, ← Fields.withDefault_of_none (hnone hrr) hage]
  | intervalSeconds => rw [clear, ← Fields.withDefault_of_none (hnone hrr) hinterval]
  | idleAfterSeconds => rw [clear, ← Fields.withDefault_of_none (hnone hrr) hidle]
  | timeoutSeconds => rw [clear, ← Fields.withDefault_of_none (hnone hrb) htimeout]
  | compressionLevel => rw [clear, ← Fields.withDefault_of_none (hnone hrs) hlevel]
  | useMessageDates => rw [clear, ← Fields.withDefault_of_none (hnone hrs) hdates]
  | tagRules => rw [clear, ← Fields.withDefault_of_none (hnone hrt) hlist]

end Setting

namespace Config

def resetting (p : String → Bool) (c : Config) : Config :=
  { c with
    storage := if p "storage" then {} else c.storage
    retention := if p "retention" then {} else c.retention
    webhook := if p "webhook" then {} else c.webhook }

theorem resetting_of_none {p : String → Bool} (h : ∀ name, p name = false) (c : Config) :
    c.resetting p = c := by
  simp [resetting, h]

theorem resetting_resetting (p q : String → Bool) (c : Config) :
    (c.resetting p).resetting q = c.resetting fun name => p name || q name := by
  simp only [resetting, Bool.or_eq_true, Config.mk.injEq, true_and]
  refine ⟨?_, ?_, ?_⟩ <;> split <;> simp_all

theorem clear_resetting (p : String → Bool) (c : Config) (x : Setting) :
    x.clear (c.resetting p) = (x.clear c).resetting p := by
  rw [resetting, resetting]
  cases x with
  | text x => cases x <;> cases p "storage" <;> cases p "webhook" <;> rfl
  | _ => cases p "storage" <;> cases p "retention" <;> cases p "webhook" <;> rfl

end Config

inductive Override where
  | maxMessages (n : UInt64)
  | maxAgeHours (n : UInt64)
  | intervalSeconds (n : UInt64)
  | idleAfterSeconds (n : UInt64)
  | timeoutSeconds (n : UInt64)
  | compressionLevel (i : Int)
  | useMessageDates (b : Bool)

namespace Override

open Layers Text

def setting : Override → Setting
  | maxMessages _ => .maxMessages
  | maxAgeHours _ => .maxAgeHours
  | intervalSeconds _ => .intervalSeconds
  | idleAfterSeconds _ => .idleAfterSeconds
  | timeoutSeconds _ => .timeoutSeconds
  | compressionLevel _ => .compressionLevel
  | useMessageDates _ => .useMessageDates

def text : Override → String
  | maxMessages n | maxAgeHours n | intervalSeconds n | idleAfterSeconds n | timeoutSeconds n =>
    String.ofList (intDigits n.toNat)
  | compressionLevel i => String.ofList (intDigits i)
  | useMessageDates b => if b then "true" else "false"

def entry (o : Override) : String × String :=
  (o.setting.variableName, o.text)

def Fits : Override → Prop
  | maxMessages n | maxAgeHours n | intervalSeconds n | idleAfterSeconds n | timeoutSeconds n =>
    n.toNat ≤ 9223372036854775807
  | compressionLevel i => -2147483648 ≤ i ∧ i ≤ 2147483647
  | useMessageDates _ => True

def set (c : Config) : Override → Config
  | maxMessages n => { c with retention := { c.retention with maxMessages := n } }
  | maxAgeHours n => { c with retention := { c.retention with maxAgeHours := some n } }
  | intervalSeconds n => { c with retention := { c.retention with intervalSeconds := n } }
  | idleAfterSeconds n => { c with retention := { c.retention with idleAfterSeconds := n } }
  | timeoutSeconds n => { c with webhook := { c.webhook with timeoutSeconds := n } }
  | compressionLevel i => { c with storage := { c.storage with compressionLevel := i } }
  | useMessageDates b => { c with storage := { c.storage with useMessageDates := b } }

def value : Override → Toml
  | maxMessages n | maxAgeHours n | intervalSeconds n | idleAfterSeconds n | timeoutSeconds n =>
    .integer n.toNat
  | compressionLevel i => .integer i
  | useMessageDates b => .bool b

theorem ofVariable_text {o : Override} (h : o.Fits) : ofVariable o.text = o.value := by
  have hunsigned {n : UInt64} (hn : n.toNat ≤ 9223372036854775807) :
      ofVariable (String.ofList (intDigits n.toNat)) = .integer n.toNat :=
    ofVariable_intDigits (by omega) (by omega)
  cases o with
  | compressionLevel i =>
    obtain ⟨hlow, hhigh⟩ := h
    exact ofVariable_intDigits (by omega) (by omega)
  | useMessageDates b =>
    have hlowered : ∀ name ∈ ["true", "false"], String.ofList (lower name.toList) = name := by
      decide +kernel
    cases b with
    | true =>
      rw [text, if_pos rfl, ofVariable, hlowered _ (by simp)]
      rfl
    | false =>
      rw [text, if_neg Bool.false_ne_true, ofVariable, hlowered _ (by simp)]
      rfl
  | _ => exact hunsigned h

theorem asUnsigned_toNat (n : UInt64) : asUnsigned (.integer n.toNat) = some n := by
  have hbound := n.toNat_lt
  have hwithin : within 0 18446744073709551615 (n.toNat : Int) = some (n.toNat : Int) := by
    rw [within, if_pos]
    simp
    omega
  rw [asUnsigned, asInteger, hwithin]
  simp

theorem asSigned_of_fits {i : Int} (hlow : -2147483648 ≤ i) (hhigh : i ≤ 2147483647) :
    asSigned (.integer i) = some i := by
  have hwithin : within (-9223372036854775808) 9223372036854775807 i = some i := by
    rw [within, if_pos]
    simp
    omega
  have hsame : i.bmod 4294967296 = i := Int.bmod_eq_of_le (by omega) (by omega)
  rw [asSigned, asInteger, hwithin, Option.map_some, hsame]

def put (o : Override) (fields : List (String × Toml)) : List (String × Toml) :=
  putField o.setting.sectionName (.table (putField o.setting.fieldName o.value
    (sectionFields o.setting.sectionName fields))) fields

theorem withVariable_entry {o : Override} (h : o.Fits) (fields : List (String × Toml)) :
    withVariable (.table fields) o.entry.1 o.entry.2 = some (.table (o.put fields)) := by
  have hvalue : ∀ fields, o.value ≠ .table fields := by
    cases o <;> exact nofun
  obtain ⟨hpath, hsection, hfield⟩ := o.setting.variablePath?_and_lowered
  rw [withVariable, entry, hpath, ofVariable_text h]
  exact place_pair hsection hfield hvalue fields

theorem isListed_put (o : Override) (name : String) (fields : List (String × Toml)) :
    isListed name (o.put fields) =
      (isListed name fields && !(name == o.setting.sectionName)) := by
  rw [put, isListed]
  by_cases hname : name = o.setting.sectionName
  · have hput (v : Toml) : section? name (putField name v fields) = some v :=
      Fields.value?_put_self { entries := fields, named := true } name v
    rw [← hname, hput]
    simp
  · have hput (v : Toml) : section? name (putField o.setting.sectionName v fields) =
        (section? name fields) :=
      Fields.value?_put_of_ne { entries := fields, named := true } hname v
    rw [hput, isListed]
    simp [hname]

theorem read?_put {o : Override} (ho : o.Fits) {fields : List (String × Toml)} {c : Config}
    (h : Config.read? Layers.format (.table fields) = some c) :
    Config.read? Layers.format (.table (o.put fields)) = some (o.set (c.resetting fun name =>
      isListed name fields && name == o.setting.sectionName)) := by
  obtain ⟨r, hr, hstorage, hretention, -, hwebhook, -⟩ := Config.read?_eq_some_iff.mp h
  obtain ⟨-, rfl⟩ := Fields.ofNamed?_eq_some_iff.mp hr
  have hstorage' := read_sectionFields hstorage rfl
    fun hread => ⟨_, (StorageConfig.read?_eq_some_iff.mp hread).imp fun _ => And.left⟩
  have hretention' := read_sectionFields hretention rfl
    fun hread => ⟨_, (RetentionConfig.read?_eq_some_iff.mp hread).imp fun _ => And.left⟩
  have hwebhook' := read_sectionFields hwebhook rfl
    fun hread => ⟨_, (WebhookConfig.read?_eq_some_iff.mp hread).imp fun _ => And.left⟩
  have hretentionField (n : UInt64) := read?_retentionField (asUnsigned_toNat n) hretention'
  cases o with
  | maxMessages n =>
    refine (read?_retention h (hretentionField n).1).trans ?_
    simp [set, Config.resetting, setting, Setting.sectionName]
  | maxAgeHours n =>
    refine (read?_retention h (hretentionField n).2.1).trans ?_
    simp [set, Config.resetting, setting, Setting.sectionName]
  | intervalSeconds n =>
    refine (read?_retention h (hretentionField n).2.2.1).trans ?_
    simp [set, Config.resetting, setting, Setting.sectionName]
  | idleAfterSeconds n =>
    refine (read?_retention h (hretentionField n).2.2.2).trans ?_
    simp [set, Config.resetting, setting, Setting.sectionName]
  | timeoutSeconds n =>
    refine (read?_webhook h (read?_timeout (asUnsigned_toNat n) hwebhook')).trans ?_
    simp [set, Config.resetting, setting, Setting.sectionName]
  | compressionLevel i =>
    have hlevel := asSigned_of_fits ho.1 ho.2
    refine (read?_storage h (read?_compressionLevel hstorage' hlevel)).trans ?_
    simp [set, Config.resetting, setting, Setting.sectionName]
  | useMessageDates b =>
    refine (read?_storage h (read?_useMessageDates hstorage' rfl)).trans ?_
    simp [set, Config.resetting, setting, Setting.sectionName]

theorem resetting_set {o : Override} {p : String → Bool} (h : p o.setting.sectionName = false)
    (c : Config) : (o.set c).resetting p = o.set (c.resetting p) := by
  cases o <;> simp_all [set, Config.resetting, setting, Setting.sectionName]

theorem read?_entries {os : List Override} (hfits : ∀ o ∈ os, o.Fits)
    {fields : List (String × Toml)} {c : Config}
    (h : Config.read? Layers.format (.table fields) = some c) :
    ((os.map entry).foldlM (fun t v => withVariable t v.1 v.2) (.table fields)).bind
        (Config.read? Layers.format) =
      some (os.foldl set (c.resetting fun name =>
        isListed name fields && os.any fun o => name == o.setting.sectionName)) := by
  induction os generalizing fields c with
  | nil =>
    simp only [List.any_nil, Bool.and_false, List.map_nil, List.foldlM_nil, List.foldl_nil]
    rw [Config.resetting_of_none fun _ => rfl]
    exact h
  | cons o os ih =>
    obtain ⟨ho, hos⟩ := List.forall_mem_cons.mp hfits
    have hrest := ih hos (read?_put ho h)
    have hagain : (isListed o.setting.sectionName (o.put fields) &&
        os.any fun o' => o.setting.sectionName == o'.setting.sectionName) = false := by
      rw [isListed_put]
      simp
    rw [resetting_set hagain, Config.resetting_resetting] at hrest
    rw [List.map_cons, List.foldlM_cons, withVariable_entry ho, Option.bind_eq_bind,
      Option.bind_some, hrest, List.foldl_cons]
    congr 4
    funext name
    rw [isListed_put, List.any_cons]
    cases isListed name fields <;> cases name == o.setting.sectionName <;> rfl

theorem clear_set {o : Override} {x : Setting} (h : o.setting ≠ x) (c : Config) :
    x.clear (o.set c) = o.set (x.clear c) := by
  cases x with
  | text x => cases x <;> cases o <;> rfl
  | _ => cases o <;> first | rfl | exact absurd rfl h

theorem clear_foldl_set {os : List Override} {x : Setting} (h : ∀ o ∈ os, o.setting ≠ x)
    (c : Config) : x.clear (os.foldl set c) = os.foldl set (x.clear c) := by
  induction os generalizing c with
  | nil => rfl
  | cons o os ih =>
    obtain ⟨ho, hos⟩ := List.forall_mem_cons.mp h
    rw [List.foldl_cons, List.foldl_cons, ih hos, clear_set ho]

end Override

def Layers.listsSection (file : Option String) (name : String) : Bool :=
  (base? file).any fun base => isListed name (fieldsOf base)

theorem Config.load?_overrides (file : Option String) (os : List Override) (c : Config)
    (hfile : Config.load? file [] = some c) (hfits : ∀ o ∈ os, o.Fits) :
    ∃ loaded, Config.load? file (os.map Override.entry) = some loaded ∧
      loaded = os.foldl Override.set (c.resetting fun name =>
        Layers.listsSection file name && os.any fun o => name == o.setting.sectionName) ∧
      ((∀ o ∈ os, Layers.listsSection file o.setting.sectionName = false) →
        loaded = os.foldl Override.set c) ∧
      ∀ x : Setting, x.given? file = none → (∀ o ∈ os, o.setting ≠ x) →
        x.clear loaded = loaded := by
  have hread := hfile
  rw [Layers.load?_eq, Option.bind_eq_some_iff] at hread
  obtain ⟨base, hbase, hread⟩ := hread
  obtain ⟨fields, rfl⟩ := Layers.table_of_base? hbase
  have hlists (name : String) : Layers.listsSection file name = Layers.isListed name fields := by
    rw [Layers.listsSection, hbase]
    rfl
  refine ⟨_, ?_, rfl, ?_, ?_⟩
  · rw [Layers.load?_eq, hbase, Option.bind_some, Override.read?_entries hfits hread]
    simp only [hlists]
  · intro hnone
    rw [Config.resetting_of_none]
    intro name
    by_cases htouched : ∃ o ∈ os, name = o.setting.sectionName
    · obtain ⟨o, ho, rfl⟩ := htouched
      rw [hnone o ho, Bool.false_and]
    · have huntouched : (os.any fun o => name == o.setting.sectionName) = false := by
        simpa using htouched
      rw [huntouched, Bool.and_false]
  · intro x hx hother
    rw [Override.clear_foldl_set hother, clear_resetting, Setting.clear_of_not_given hfile hx]

theorem Config.load?_overrides_beside :
    Config.load? (some "[retention]\nmax_messages = 25\n") [] =
        some { retention := { maxMessages := 25 } } ∧
      Config.load? (some "[retention]\nmax_messages = 25\n")
        [("MAILBOX__RETENTION__MAX_AGE_HOURS", "48"), ("MAILBOX__STORAGE__COMPRESSION_LEVEL", "9"),
          ("MAILBOX__STORAGE__USE_MESSAGE_DATES", "true")] =
        some {
          storage := { useMessageDates := true, compressionLevel := 9 }
          retention := { maxMessages := 25, maxAgeHours := some 48 } } := by
  have hfile : Config.load? (some "[retention]\nmax_messages = 25\n") [] =
      some { retention := { maxMessages := 25 } } := by decide +kernel
  obtain ⟨loaded, hload, hset, -⟩ := Config.load?_overrides _
    [.maxAgeHours 48, .compressionLevel 9, .useMessageDates true] _ hfile
    (by simp [Override.Fits])
  refine ⟨hfile, ?_⟩
  have hentries : [Override.maxAgeHours 48, .compressionLevel 9, .useMessageDates true].map
      Override.entry = [("MAILBOX__RETENTION__MAX_AGE_HOURS", "48"),
        ("MAILBOX__STORAGE__COMPRESSION_LEVEL", "9"),
        ("MAILBOX__STORAGE__USE_MESSAGE_DATES", "true")] := by decide +kernel
  rw [hentries] at hload
  rw [hload, hset]
  decide +kernel

theorem Config.load?_overrides_listed :
    Config.load? (some "retention = [25]\n") [] =
        some { retention := { maxMessages := 25 } } ∧
      Config.load? (some "retention = [25]\n") [("MAILBOX__RETENTION__INTERVAL_SECS", "10")] =
        some { retention := { maxMessages := 500, intervalSeconds := 10 } } := by
  decide +kernel

end Letterbox
