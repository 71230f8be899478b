namespace Letterbox

structure StorageConfig where
  dataFile : Option String := none
  useMessageDates : Bool := false
  compressionLevel : Int := 3
  deriving DecidableEq, Repr, Inhabited

structure RetentionConfig where
  maxMessages : UInt64 := 500
  maxAgeHours : Option UInt64 := none
  intervalSeconds : UInt64 := 60
  idleAfterSeconds : UInt64 := 300
  deriving DecidableEq, Repr, Inhabited

structure TagRule where
  pattern : String
  tags : List String
  deriving DecidableEq, Repr, Inhabited

structure WebhookConfig where
  url : Option String := none
  timeoutSeconds : UInt64 := 10
  deriving DecidableEq, Repr, Inhabited

structure LoggingConfig where
  level : String := "info"
  format : String := "pretty"
  deriving DecidableEq, Repr, Inhabited

structure Config where
  storage : StorageConfig := {}
  retention : RetentionConfig := {}
  tagRules : List TagRule := []
  webhook : WebhookConfig := {}
  logging : LoggingConfig := {}
  deriving DecidableEq, Repr, Inhabited

def Config.keepsTables (c : Config) : Bool :=
  c.storage.dataFile.any fun file => file != "" && file != ":memory:"

def Config.ephemeral : Config :=
  { retention := { maxMessages := 0 } }

end Letterbox
