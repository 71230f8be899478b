import Letterbox.Json.Record
import Letterbox.Mailbox.Record
import Letterbox.Time.Timestamp

namespace Letterbox

open Json

namespace Instant

def toJson (t : Instant) : Json :=
  .string t.text

def ofJson? (v : Json) : Option Instant :=
  (string? v).bind read?

end Instant

namespace Address

def toJson (a : Address) : Json :=
  .object [("name", .string a.name), ("address", .string a.address)]

def ofJson? (v : Json) : Option Address := do
  let r ← record? ["name", "address"] v
  return { name := ← r.required "name" string?, address := ← r.required "address" string? }

end Address

namespace Parties

def addressesJson (l : List Address) : Json :=
  .array (l.map Address.toJson)

def addresses? : Json → Option (List Address) :=
  list? Address.ofJson?

def jsonFields (p : Parties) : List (String × Json) :=
  [("from", .optional Address.toJson p.sender),
   ("to", addressesJson p.recipients),
   ("cc", addressesJson p.copies),
   ("bcc", addressesJson p.blindCopies),
   ("reply_to", addressesJson p.replyTo)]

def fieldNames : List String :=
  ["from", "to", "cc", "bcc", "reply_to"]

def toJson (p : Parties) : Json :=
  .object p.jsonFields

def ofJson? (v : Json) : Option Parties := do
  let r ← record? fieldNames v
  return {
    sender := ← r.withDefault "from" none (orNull? Address.ofJson?)
    recipients := ← r.withDefault "to" [] addresses?
    copies := ← r.withDefault "cc" [] addresses?
    blindCopies := ← r.withDefault "bcc" [] addresses?
    replyTo := ← r.withDefault "reply_to" [] addresses? }

def ofRecord? (r : Fields Json) : Option Parties := do
  return {
    sender := ← r.optional "from" Address.ofJson?
    recipients := ← r.required "to" addresses?
    copies := ← r.required "cc" addresses?
    blindCopies := ← r.required "bcc" addresses?
    replyTo := ← r.required "reply_to" addresses? }

end Parties

namespace Summary

def toJson (s : Summary) : Json :=
  .object ([("id", .string s.id), ("message_id", .string s.messageId)] ++ s.parties.jsonFields ++
    [("subject", .string s.subject),
     ("created", s.created.toJson),
     ("size", ofUInt64 s.size),
     ("inline", ofUInt32 s.inlineCount),
     ("attachments", ofUInt32 s.attachmentCount),
     ("snippet", .string s.snippet),
     ("read", .bool s.read),
     ("tags", strings s.tags)])

def fieldNames : List String :=
  ["id", "message_id"] ++ Parties.fieldNames ++
    ["subject", "created", "size", "inline", "attachments", "snippet", "read", "tags"]

def ofJson? (v : Json) : Option Summary := do
  let r ← record? fieldNames v
  return {
    id := ← r.required "id" string?
    messageId := ← r.required "message_id" string?
    parties := ← Parties.ofRecord? r
    subject := ← r.required "subject" string?
    created := ← r.required "created" Instant.ofJson?
    size := ← r.required "size" uint64?
    inlineCount := ← r.required "inline" uint32?
    attachmentCount := ← r.required "attachments" uint32?
    snippet := ← r.required "snippet" string?
    read := ← r.required "read" bool?
    tags := ← r.required "tags" strings? }

end Summary

namespace PartSummary

def toJson (p : PartSummary) : Json :=
  .object [
    ("part_id", .string p.partId),
    ("file_name", .string p.fileName),
    ("content_type", .string p.contentType),
    ("content_id", .string p.contentId),
    ("size", ofUInt64 p.size)]

def ofJson? (v : Json) : Option PartSummary := do
  let r ← record? ["part_id", "file_name", "content_type", "content_id", "size"] v
  return {
    partId := ← r.required "part_id" string?
    fileName := ← r.required "file_name" string?
    contentType := ← r.required "content_type" string?
    contentId := ← r.required "content_id" string?
    size := ← r.required "size" uint64? }

end PartSummary

namespace Unsubscribe

def toJson (u : Unsubscribe) : Json :=
  .object [
    ("header", .string u.header),
    ("links", strings u.links),
    ("errors", strings u.errors),
    ("header_post", .string u.post)]

def ofJson? (v : Json) : Option Unsubscribe := do
  let r ← record? ["header", "links", "errors", "header_post"] v
  return {
    header := ← r.required "header" string?
    links := ← r.required "links" strings?
    errors := ← r.required "errors" strings?
    post := ← r.required "header_post" string? }

end Unsubscribe

namespace Message

def toJson (m : Message) : Json :=
  .object ([("id", .string m.id), ("message_id", .string m.messageId)] ++ m.parties.jsonFields ++
    [("return_path", .string m.returnPath),
     ("subject", .string m.subject),
     ("list_unsubscribe", .optional Unsubscribe.toJson m.unsubscribe),
     ("date", m.date.toJson),
     ("tags", strings m.tags),
     ("text", .string m.text),
     ("html", .string m.html),
     ("size", ofUInt64 m.size),
     ("inline", .array (m.inlines.map PartSummary.toJson)),
     ("attachments", .array (m.attachments.map PartSummary.toJson))])

def fieldNames : List String :=
  ["id", "message_id"] ++ Parties.fieldNames ++
    ["return_path", "subject", "list_unsubscribe", "date", "tags", "text", "html", "size", "inline",
      "attachments"]

def ofJson? (v : Json) : Option Message := do
  let r ← record? fieldNames v
  return {
    id := ← r.required "id" string?
    messageId := ← r.required "message_id" string?
    parties := ← Parties.ofRecord? r
    returnPath := ← r.required "return_path" string?
    subject := ← r.required "subject" string?
    unsubscribe := ← r.optional "list_unsubscribe" Unsubscribe.ofJson?
    date := ← r.required "date" Instant.ofJson?
    tags := ← r.required "tags" strings?
    text := ← r.required "text" string?
    html := ← r.required "html" string?
    size := ← r.required "size" uint64?
    inlines := ← r.required "inline" (list? PartSummary.ofJson?)
    attachments := ← r.required "attachments" (list? PartSummary.ofJson?) }

end Message

namespace Stats

def toJson (s : Stats) : Json :=
  .object [
    ("total", ofUInt64 s.total),
    ("unread", ofUInt64 s.unread),
    ("tags", strings s.tags)]

def ofJson? (v : Json) : Option Stats := do
  let r ← record? ["total", "unread", "tags"] v
  return {
    total := ← r.required "total" uint64?
    unread := ← r.required "unread" uint64?
    tags := ← r.required "tags" strings? }

end Stats

namespace SearchResults

def toJson (s : SearchResults) : Json :=
  .object [("messages", .array (s.messages.map Summary.toJson)), ("total", ofUInt64 s.total)]

def ofJson? (v : Json) : Option SearchResults := do
  let r ← record? ["messages", "total"] v
  return {
    messages := ← r.required "messages" (list? Summary.ofJson?)
    total := ← r.required "total" uint64? }

end SearchResults

end Letterbox
