import Letterbox.Text.Blank
import Letterbox.Text.Lowercase
import Letterbox.Text.Utf8
import Letterbox.Time.Instant

namespace Letterbox

structure Address where
  name : String
  address : String
  deriving DecidableEq, Repr, Inhabited

namespace Address

def display (a : Address) : String :=
  if a.name.isEmpty then a.address
  else if a.address.isEmpty then a.name
  else a.name ++ " <" ++ a.address ++ ">"

end Address

structure Part where
  partId : String
  fileName : String
  contentType : String
  contentId : String
  disposition : String
  content : Bytes
  deriving DecidableEq, Repr, Inhabited

namespace Part

def size (p : Part) : Nat :=
  p.content.length

def isReferenceable (p : Part) : Bool :=
  !p.fileName.isEmpty || !p.contentId.isEmpty

end Part

structure Envelope where
  headers : List (String × String) := []
  subject : String := ""
  senders : List Address := []
  recipients : List Address := []
  copies : List Address := []
  blindCopies : List Address := []
  replyTo : List Address := []
  date : Option Instant := none
  text : String := ""
  html : String := ""
  inlines : List Part := []
  otherParts : List Part := []
  attachments : List Part := []
  deriving DecidableEq, Repr, Inhabited

def trimBrackets (s : String) : String :=
  String.ofList (Text.trimBoth (fun c => c == '<' || c == '>') (Text.trim s.toList))

namespace Envelope

def header (e : Envelope) (name : String) : String :=
  ((e.headers.find? fun h => Text.sameAscii h.1.toList name.toList).map (·.2)).getD ""

def canonicalSender (e : Envelope) : Option Address :=
  match e.senders.head? with
  | some a => some a
  | none =>
    let raw := String.ofList (Text.trim (e.header "From").toList)
    if raw.isEmpty then none else some ⟨raw, ""⟩

def messageId (e : Envelope) : String :=
  trimBrackets (e.header "Message-ID")

def parts (e : Envelope) : List Part :=
  e.inlines ++ e.otherParts ++ e.attachments

def findPart (e : Envelope) (partId : String) : Option Part :=
  e.parts.find? fun p => p.partId == partId

end Envelope

end Letterbox
