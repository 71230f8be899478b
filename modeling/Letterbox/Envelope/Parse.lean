import Letterbox.Envelope.Basic
import Letterbox.Envelope.Header
import Letterbox.Html.Text
import Letterbox.Mime.Address
import Letterbox.Mime.DateTime
import Letterbox.Mime.Identifier
import Letterbox.Mime.Reader
import Letterbox.Mime.Tree
import Letterbox.Time.Timestamp

namespace Letterbox

inductive Malformed where
  | noHeader
  | unparseable
  deriving DecidableEq, Repr

namespace Malformed

def message : Malformed → String
  | .noHeader => "no header block found"
  | .unparseable => "unparseable message"

end Malformed

namespace Envelope

def ofChars (s : List Char) : String :=
  String.ofList s

def trimmed (s : List Char) : String :=
  String.ofList (Text.trim s)

def addresses (m : Mime.Message) (name : String) : List Address :=
  match m.field? name with
  | none => []
  | some f =>
    (Mime.AddressList.read f.body f.ended).filterMap fun b =>
      match b.address with
      | none => none
      | some a =>
        let a := Text.trim a
        if a.contains '@' then some ⟨trimmed (b.name.getD []), ofChars a⟩ else none

def dateOf (m : Mime.Message) : Option Instant :=
  ((m.field? "Date").bind fun f => Mime.DateTime.read f.body).bind fun d =>
    Instant.ofSeconds? d.toSeconds

def subjectOf (m : Mime.Message) (headers : List Header.Field) : String :=
  let decoded := (m.field? "Subject").bind fun f =>
    if f.ended then Mime.Unstructured.read f.body else none
  match decoded with
  | some s => trimmed s
  | none => trimmed (((headers.find? fun h => h.1 == "subject".toList).map (·.2)).getD [])

def textOf (m : Mime.Message) : String :=
  String.intercalate "\n" (m.textBody.filterMap fun i =>
    ((m.body? i).bind Mime.Body.text?).map ofChars)

def htmlOf (m : Mime.Message) : String :=
  (m.htmlBody.findSome? fun i => ((m.body? i).bind Mime.Body.html?).map ofChars).getD ""

def isBodyPlace (m : Mime.Message) (place : Nat) : Bool :=
  (m.textBody ++ m.htmlBody).contains place &&
    (m.body? place).any fun b => b.text?.isSome || b.html?.isSome

def defaultContentType : Mime.Body → String
  | .text _ => "text/plain"
  | .html _ => "text/html"
  | .message _ => "message/rfc822"
  | _ => "application/octet-stream"

def contentTypeOf (p : Mime.Part) : String :=
  match p.contentType with
  | some t =>
    let full := match t.subkind with
      | some s => t.kind ++ '/' :: s
      | none => t.kind
    ofChars (Text.lower full)
  | none => defaultContentType p.body

def contentIdOf (p : Mime.Part) : String :=
  let ids := match Mime.HeaderBlock.find? p.fields "Content-ID" with
    | some f => if f.ended then Mime.Identifier.read f.body else []
    | none => []
  trimBrackets (ofChars (ids.getLast?.getD []))

def partOf (id : String) (p : Mime.Part) : Part :=
  { partId := id
    fileName := trimmed (p.fileName.getD [])
    contentType := contentTypeOf p
    contentId := contentIdOf p
    disposition := ofChars (Text.lower ((p.disposition.map (·.kind)).getD []))
    content := p.contents }

def addPart (e : Envelope) (p : Part) : Envelope :=
  if p.disposition == "inline" then { e with inlines := e.inlines ++ [p] }
  else if p.disposition == "attachment" then { e with attachments := e.attachments ++ [p] }
  else if !p.contentId.isEmpty then { e with otherParts := e.otherParts ++ [p] }
  else { e with attachments := e.attachments ++ [p] }

def partsOf (m : Mime.Message) : List Part :=
  m.tree.leaves.filterMap fun (path, place) =>
    if isBodyPlace m place then none
    else (m.parts[place]?).map (partOf (Mime.Tree.identifier path))

def ofMessage (m : Mime.Message) (headers : List Header.Field) : Envelope :=
  let html := htmlOf m
  let plain := textOf m
  let text := if Text.allBlank plain.toList && !html.isEmpty then Html.toText html else plain
  (partsOf m).foldl addPart {
    headers := headers.map fun h => (ofChars h.1, ofChars h.2)
    subject := subjectOf m headers
    senders := addresses m "From"
    recipients := addresses m "To"
    copies := addresses m "Cc"
    blindCopies := addresses m "Bcc"
    replyTo := addresses m "Reply-To"
    date := dateOf m
    text := text
    html := html }

def parse (raw : Bytes) : Except Malformed Envelope :=
  let headers := Header.read raw
  if headers.isEmpty then .error .noHeader
  else match Mime.Message.read? raw with
    | none => .error .unparseable
    | some m => .ok (ofMessage m headers)

end Envelope

end Letterbox
