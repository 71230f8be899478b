import Letterbox.Envelope.Basic
import Letterbox.Envelope.Unsubscribe

namespace Letterbox

structure Parties where
  sender : Option Address := none
  recipients : List Address := []
  copies : List Address := []
  blindCopies : List Address := []
  replyTo : List Address := []
  deriving DecidableEq, Repr, Inhabited

structure Summary where
  id : String
  messageId : String
  parties : Parties
  subject : String
  created : Instant
  size : UInt64
  inlineCount : UInt32
  attachmentCount : UInt32
  snippet : String
  read : Bool
  tags : List String
  deriving DecidableEq, Repr, Inhabited

structure PartSummary where
  partId : String
  fileName : String
  contentType : String
  contentId : String
  size : UInt64
  deriving DecidableEq, Repr, Inhabited

structure Message where
  id : String
  messageId : String
  parties : Parties
  returnPath : String
  subject : String
  unsubscribe : Option Unsubscribe
  date : Instant
  tags : List String
  text : String
  html : String
  size : UInt64
  inlines : List PartSummary
  attachments : List PartSummary
  deriving DecidableEq, Repr, Inhabited

structure Stats where
  total : UInt64 := 0
  unread : UInt64 := 0
  tags : List String := []
  deriving DecidableEq, Repr, Inhabited

structure SearchResults where
  messages : List Summary := []
  total : UInt64 := 0
  deriving DecidableEq, Repr, Inhabited

def PartSummary.ofPart (p : Part) : PartSummary :=
  { partId := p.partId
    fileName := p.fileName
    contentType := p.contentType
    contentId := p.contentId
    size := p.size.toUInt64 }

def Parties.ofEnvelope (e : Envelope) : Parties :=
  { sender := e.canonicalSender
    recipients := e.recipients
    copies := e.copies
    blindCopies := e.blindCopies
    replyTo := e.replyTo }

end Letterbox
