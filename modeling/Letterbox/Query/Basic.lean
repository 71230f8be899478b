import Letterbox.Text.Blank
import Letterbox.Time.Calendar

namespace Letterbox.Query

inductive Field where
  | sender
  | recipient
  | copy
  | blindCopy
  | replyTo
  | addressed
  | subject
  | messageId
  | tag
  deriving DecidableEq, Repr

inductive Flag where
  | read
  | unread
  | tagged
  | attachment
  | inlinePart
  deriving DecidableEq, Repr

inductive Side where
  | before
  | after
  deriving DecidableEq, Repr

inductive Condition where
  | text (value : String)
  | field (field : Field) (value : String)
  | flag (flag : Flag)
  | date (side : Side) (date : Date)
  deriving DecidableEq, Repr

structure Term where
  condition : Condition
  negated : Bool := false
  deriving DecidableEq, Repr

def Field.name : Field → String
  | .sender => "from"
  | .recipient => "to"
  | .copy => "cc"
  | .blindCopy => "bcc"
  | .replyTo => "reply-to"
  | .addressed => "addressed"
  | .subject => "subject"
  | .messageId => "message-id"
  | .tag => "tag"

def Field.all : List Field :=
  [.sender, .recipient, .copy, .blindCopy, .replyTo, .addressed, .subject, .messageId, .tag]

def Flag.name : Flag → String
  | .read => "is:read"
  | .unread => "is:unread"
  | .tagged => "is:tagged"
  | .attachment => "has:attachment"
  | .inlinePart => "has:inline"

def Side.name : Side → String
  | .before => "before"
  | .after => "after"

def Condition.write : Condition → List Char
  | .text v => v.toList
  | .field f v => f.name.toList ++ ':' :: v.toList
  | .flag f => f.name.toList
  | .date side d => side.name.toList ++ ':' :: d.text

def Term.write (t : Term) : List Char :=
  '"' :: (if t.negated then '-' :: t.condition.write else t.condition.write) ++ ['"']

def write (terms : List Term) : String :=
  String.ofList (Text.joinWith [' '] (terms.map Term.write))

end Letterbox.Query
