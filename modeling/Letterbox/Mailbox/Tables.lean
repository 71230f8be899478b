import Letterbox.Json.Relaxed
import Letterbox.Mailbox.Encoding
import Letterbox.Mailbox.Error
import Letterbox.Mailbox.Tag

namespace Letterbox

inductive Document where
  | json (value : Json)
  | broken (text : String)
  deriving Repr, Inhabited

namespace Document

def ofText (s : String) : Document :=
  match Json.parse? s with
  | some v => .json v
  | none => .broken s

/-- The value that the database reads in a column. -/
def column? : Document → Option Json
  | .json v => if v.depth ≤ Json.Relaxed.nestingLimit then some v else none
  | .broken s => Json.Relaxed.parse? s

def parties? : Document → Option Parties
  | .json v => Parties.ofJson? v
  | .broken _ => none

end Document

structure Row where
  id : String
  messageId : String
  created : Int
  subject : String
  metadata : Document
  size : UInt64
  inlineCount : UInt32
  attachmentCount : UInt32
  searchText : String
  snippet : Option String
  read : Bool
  deriving Repr, Inhabited

structure TagRow where
  number : Nat
  name : String
  key : String
  deriving DecidableEq, Repr, Inhabited

structure Tables where
  messages : List Row := []
  payloads : List (String × Bytes) := []
  tags : List TagRow := []
  links : List (String × Nat) := []
  lastTag : Nat := 0
  deriving Repr, Inhabited

def Row.createdAt (r : Row) : Instant :=
  let t := Instant.ofMillis r.created
  if Instant.firstSecond ≤ t.seconds && t.seconds ≤ Instant.lastSecond then t else ⟨0, 0⟩

namespace Tables

def row? (t : Tables) (id : String) : Option Row :=
  t.messages.find? fun r => r.id == id

def payload? (t : Tables) (id : String) : Option Bytes :=
  (t.payloads.find? fun p => p.1 == id).map (·.2)

def isTaken (t : Tables) (id : String) : Bool :=
  (t.row? id).isSome || (t.payload? id).isSome

def newestFirst (t : Tables) : List Row :=
  t.messages.mergeSort fun a b => decide (b.created ≤ a.created)

def sortedTags (t : Tables) : List TagRow :=
  Text.sortBy (fun g => g.key.toList) t.tags

def vocabulary (t : Tables) : List String :=
  t.sortedTags.map TagRow.name

def carries (t : Tables) (id : String) (g : TagRow) : Bool :=
  t.links.contains (id, g.number)

def tagsOf (t : Tables) (id : String) : List String :=
  (t.sortedTags.filter (t.carries id)).map TagRow.name

def stats (t : Tables) : Stats :=
  { total := t.messages.length.toUInt64
    unread := (t.messages.filter fun r => !r.read).length.toUInt64
    tags := t.vocabulary }

def summary? (t : Tables) (r : Row) : Option Summary :=
  r.metadata.parties?.map fun parties => {
    id := r.id
    messageId := r.messageId
    parties
    subject := r.subject
    created := r.createdAt
    size := r.size
    inlineCount := r.inlineCount
    attachmentCount := r.attachmentCount
    snippet := r.snippet.getD ""
    read := r.read
    tags := t.tagsOf r.id }

def editRow (t : Tables) (id : String) (f : Row → Row) : Tables :=
  { t with messages := t.messages.map fun r => if r.id == id then f r else r }

def setRead (t : Tables) (id : String) (read : Bool) : Tables :=
  t.editRow id fun r => { r with read }

def setAllRead (t : Tables) (read : Bool) : Nat × Tables :=
  ((t.messages.filter fun r => r.read != read).length,
    { t with messages := t.messages.map fun r => { r with read } })

def insert (t : Tables) (r : Row) (payload : Bytes) : Tables :=
  { t with messages := r :: t.messages, payloads := (r.id, payload) :: t.payloads }

def remove (t : Tables) (ids : List String) : Tables :=
  { t with
    messages := t.messages.filter fun r => !ids.contains r.id
    payloads := t.payloads.filter fun p => !ids.contains p.1
    links := t.links.filter fun l => !ids.contains l.1 }

/-- Two names are one to the vocabulary when they are equally long and agree up to the case of ASCII
letters as far as the first NUL character. -/
def sameName (a b : String) : Bool :=
  a.utf8ByteSize == b.utf8ByteSize &&
    Text.sameAscii (a.toList.takeWhile (· != '\x00')) (b.toList.takeWhile (· != '\x00'))

def ensureTag (t : Tables) (name : String) : Except MailError (TagRow × Tables) :=
  match t.tags.find? fun g => g.key == Tag.key name with
  | some known => .ok (known, t)
  | none =>
    if t.tags.any fun g => sameName name g.name then .error (.tagTaken name)
    else
      let tag : TagRow := { number := t.lastTag + 1, name, key := Tag.key name }
      .ok (tag, { t with tags := t.tags ++ [tag], lastTag := t.lastTag + 1 })

def untag (t : Tables) (id : String) : Tables :=
  { t with links := t.links.filter fun l => l.1 != id }

def link (t : Tables) (id : String) (number : Nat) : Tables :=
  if t.links.contains (id, number) then t else { t with links := t.links ++ [(id, number)] }

def addTags (t : Tables) (id : String) : List String → Except MailError (List String × Tables)
  | [] => .ok ([], t)
  | name :: rest => do
    let (tag, t) ← t.ensureTag name
    let (names, t) ← (t.link id tag.number).addTags id rest
    return (tag.name :: names, t)

def replaceTags (t : Tables) (id : String) (names : List String) :
    Except MailError (List String × Tables) :=
  (t.untag id).addTags id (Tag.normalize names)

def pruneTags (t : Tables) : Tables :=
  { t with tags := t.tags.filter fun g => t.links.any fun l => l.2 == g.number }

def clear (t : Tables) : Tables :=
  { lastTag := t.lastTag }

end Tables

end Letterbox
