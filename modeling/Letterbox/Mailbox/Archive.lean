import Letterbox.Json.Printer
import Letterbox.Json.Record
import Letterbox.Mailbox.Tables
import Letterbox.Text.Hex

namespace Letterbox

open Json

namespace Document

def text : Document → String
  | .json v => v.render
  | .broken s => s

end Document

namespace Row

def toJson (r : Row) : Json :=
  .object [
    ("id", .string r.id),
    ("message_id", .string r.messageId),
    ("created", .int r.created),
    ("subject", .string r.subject),
    ("metadata", .string r.metadata.text),
    ("size", ofUInt64 r.size),
    ("inline", ofUInt32 r.inlineCount),
    ("attachments", ofUInt32 r.attachmentCount),
    ("search_text", .string r.searchText),
    ("snippet", .optional .string r.snippet),
    ("read", .bool r.read)]

def fieldNames : List String :=
  ["id", "message_id", "created", "subject", "metadata", "size", "inline", "attachments",
    "search_text", "snippet", "read"]

def ofJson? (v : Json) : Option Row := do
  let r ← record? fieldNames v
  return {
    id := ← r.required "id" string?
    messageId := ← r.required "message_id" string?
    created := ← r.required "created" int?
    subject := ← r.required "subject" string?
    metadata := .ofText (← r.required "metadata" string?)
    size := ← r.required "size" uint64?
    inlineCount := ← r.required "inline" uint32?
    attachmentCount := ← r.required "attachments" uint32?
    searchText := ← r.required "search_text" string?
    snippet := ← r.optional "snippet" string?
    read := ← r.required "read" bool? }

end Row

namespace TagRow

def toJson (g : TagRow) : Json :=
  .object [("number", .nat g.number), ("name", .string g.name), ("key", .string g.key)]

def ofJson? (v : Json) : Option TagRow := do
  let r ← record? ["number", "name", "key"] v
  return {
    number := ← r.required "number" nat?
    name := ← r.required "name" string?
    key := ← r.required "key" string? }

end TagRow

namespace Tables

def pairJson {α : Type} (f : α → Json) (p : String × α) : Json :=
  .array [.string p.1, f p.2]

def pair? {α : Type} (read : Json → Option α) (v : Json) : Option (String × α) :=
  match v with
  | .array [.string a, b] => (read b).map fun b => (a, b)
  | _ => none

def payloadJson (b : Bytes) : Json :=
  .string (String.ofList (Text.hexText b))

def payloadOf? (v : Json) : Option Bytes :=
  (string? v).bind fun s => Text.hexBytes? s.toList

def toJson (t : Tables) : Json :=
  .object [
    ("messages", .array (t.messages.map Row.toJson)),
    ("payloads", .array (t.payloads.map (pairJson payloadJson))),
    ("tags", .array (t.tags.map TagRow.toJson)),
    ("links", .array (t.links.map (pairJson .nat))),
    ("last_tag", .nat t.lastTag)]

def ofJson? (v : Json) : Option Tables := do
  let r ← record? ["messages", "payloads", "tags", "links", "last_tag"] v
  return {
    messages := ← r.required "messages" (list? Row.ofJson?)
    payloads := ← r.required "payloads" (list? (pair? payloadOf?))
    tags := ← r.required "tags" (list? TagRow.ofJson?)
    links := ← r.required "links" (list? (pair? nat?))
    lastTag := ← r.required "last_tag" nat? }

def archive (t : Tables) : Bytes :=
  Text.encode t.toJson.renderChars

def ofArchive? (content : Bytes) : Except MailError Tables :=
  if content.isEmpty then .ok {}
  else
    match (Text.decode? content).bind fun s => (parseChars? s).bind ofJson? with
    | some t => .ok t
    | none => .error (.unusableData .foreign)

end Tables

end Letterbox
