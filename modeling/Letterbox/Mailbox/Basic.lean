import Letterbox.Config.Basic
import Letterbox.Mailbox.Activity
import Letterbox.Mailbox.Event
import Letterbox.Mailbox.Metrics
import Letterbox.Mailbox.Tables
import Letterbox.Mailbox.TagRules

namespace Letterbox

inductive Notice where
  | event (event : Event)
  | delivery (summary : Summary)
  deriving DecidableEq, Repr

structure Mailbox where
  config : Config
  rules : TagRules
  tables : Tables := {}
  metrics : Metrics := {}
  activity : Activity := {}
  webhook : Bool := false
  started : Bool := false
  closed : Bool := false
  notices : List Notice := []
  deriving Repr

abbrev Outcome (α : Type) := Except MailError α × Mailbox

namespace Mailbox

def clock (now : Instant) : Nat :=
  now.millis.toNat

def open? (config : Config) (tables : Tables) (webhook : Bool) (now : Instant) :
    Except MailError Mailbox :=
  match TagRules.ofConfig? config.tagRules with
  | .error pattern => .error (.badPattern pattern)
  | .ok rules =>
    .ok { config, rules, tables, webhook, activity := ({} : Activity).touch (clock now) }

def isTemporary (m : Mailbox) : Bool :=
  m.config.storage.dataFile.isNone

def touch (m : Mailbox) (now : Instant) : Mailbox :=
  { m with activity := m.activity.touch (clock now) }

def notify (m : Mailbox) (n : Notice) : Mailbox :=
  { m with notices := m.notices ++ [n] }

def ask {α : Type} (m : Mailbox) (f : Tables → Except MailError α) : Except MailError α :=
  if m.closed then .error .closed else f m.tables

def announceStats (m : Mailbox) (now : Instant) : Mailbox :=
  let m := m.touch now
  if m.closed then m else m.notify (.event (.stats m.tables.stats))

def takeNotices (m : Mailbox) : List Notice × Mailbox :=
  (m.notices, { m with notices := [] })

def webhookFailed (m : Mailbox) : Mailbox :=
  { m with metrics := m.metrics.countWebhookFailure }

end Mailbox

end Letterbox
