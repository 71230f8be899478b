import Letterbox.CommandLine.Listing
import Letterbox.CommandLine.Reply
import Letterbox.Config.Layers
import Letterbox.Json.Printer
import Letterbox.Mailbox.Delivery
import Letterbox.Mailbox.Marking
import Letterbox.Mailbox.Removal
import Letterbox.Mailbox.Upkeep

namespace Letterbox

structure Surroundings where
  now : Instant
  read : String → Except Unreadable Bytes
  newId : Nat → String

namespace Invocation

def formatEnding : String := ".toml"

def settingsText? (read : String → Except Unreadable Bytes) (file : String) :
    Except BadSettings String :=
  let text? (raw : Bytes) : Except BadSettings String :=
    match Text.decode? raw with
    | some s => .ok (String.ofList s)
    | none => .error (.invalid file)
  match read file, read (file ++ formatEnding) with
  | .ok raw, _ =>
    if formatEnding.toList.isSuffixOf file.toList then text? raw else .error (.unknownFormat file)
  | .error _, .ok raw => text? raw
  | .error _, .error _ => .error (.missing file)

def fileSettings? (i : Invocation) (read : String → Except Unreadable Bytes)
    (env : List (String × String)) : Except BadSettings Config := do
  let file ← match i.settingsFile with
    | none => .ok none
    | some file => (settingsText? read file).map some
  match Config.load? file env with
  | some config => .ok config
  | none => .error (.invalid (i.settingsFile.getD ""))

def settings? (i : Invocation) (read : String → Except Unreadable Bytes)
    (env : List (String × String)) : Except Failure Config :=
  match i.fileSettings? read env with
  | .error why => .error (.settings why)
  | .ok config =>
    .ok { config with storage :=
      { config.storage with dataFile := i.dataFile <|> config.storage.dataFile } }

end Invocation

namespace Reply

def ofMailError (why : MailError) : Reply :=
  ofFailure (.mail why)

def ofOutcome {α : Type} (text : α → String) (o : Outcome α) : Reply × Mailbox :=
  match o.1 with
  | .ok a => (ofText (text a), o.2)
  | .error why => (ofMailError why, o.2)

def countText (verb : String) (n : UInt64) : String :=
  "✓ " ++ verb ++ " " ++ String.ofList (Text.digits n.toNat) ++ " messages\n"

def listText (l : List Summary) : String :=
  String.join (l.map Summary.line)

def searchText (r : SearchResults) : String :=
  listText r.messages ++ String.ofList (Text.digits r.messages.length) ++ " of " ++
    String.ofList (Text.digits r.total.toNat) ++ " matches\n"

end Reply

namespace Surroundings

def ingest (s : Surroundings) (stored : Nat) : List String → Mailbox → Reply × Mailbox
  | [], m => ({}, m)
  | file :: rest, m =>
    match s.read file with
    | .error why => (.ofFailure (.file file why), m)
    | .ok raw =>
      match m.store s.now (s.newId stored) raw with
      | (.ok id, m) =>
        let (reply, m) := s.ingest (stored + 1) rest m
        ((Reply.ofText (id ++ "  " ++ file ++ "\n")).before reply, m)
      | (.error why, m) =>
        let (reply, m) := s.ingest stored rest m
        ({ reply with errors := "Error: " ++ file ++ ": " ++ why.message ++ "\n" ++ reply.errors },
          m)

def deleteEach (s : Surroundings) : List String → Mailbox → Reply × Mailbox
  | [], m => ({}, m)
  | id :: rest, m =>
    match m.deleteOne s.now id with
    | (.error why, m) => (.ofMailError why, m)
    | (.ok (), m) =>
      let (reply, m) := s.deleteEach rest m
      ((Reply.ofText ("✓ Deleted " ++ id ++ "\n")).before reply, m)

def resolve (s : Surroundings) (id : String) (m : Mailbox) : Outcome String :=
  if id == "latest" then m.latest s.now none else (.ok id, m)

def onMessage {α : Type} (s : Surroundings) (id : String) (m : Mailbox) (reply : α → Reply)
    (look : Mailbox → String → Outcome α) : Reply × Mailbox :=
  match s.resolve id m with
  | (.error why, m) => (.ofMailError why, m)
  | (.ok id, m) =>
    match look m id with
    | (.error why, m) => (.ofMailError why, m)
    | (.ok a, m) => (reply a, m)

end Surroundings

def Command.answer (c : Command) (s : Surroundings) (m : Mailbox) : Reply × Mailbox :=
  match c with
  | .ingest files => s.ingest 0 files m
  | .list page => Reply.ofOutcome Reply.listText (m.list s.now page.offset page.limit)
  | .search query page =>
    Reply.ofOutcome Reply.searchText (m.search s.now query page.offset page.limit)
  | .show id =>
    s.onMessage id m (fun msg : Message => .ofText (msg.toJson.pretty ++ "\n"))
      fun m id => m.message s.now id
  | .raw id => s.onMessage id m (fun raw => { output := raw }) fun m id => m.raw s.now id
  | .stats => Reply.ofOutcome (fun st => st.toJson.pretty ++ "\n") (m.stats s.now)
  | .delete ids => s.deleteEach ids m
  | .deleteMatching query =>
    Reply.ofOutcome (Reply.countText "Deleted") (m.deleteMatching s.now query)
  | .deleteAll => Reply.ofOutcome (Reply.countText "Deleted") (m.deleteAll s.now)
  | .prune => Reply.ofOutcome (Reply.countText "Pruned") (m.prune s.now)
  | .run => ({}, (m.startBackground s.now).2)

def Invocation.answer (i : Invocation) (config : Config) (tables : Except MailError Tables)
    (s : Surroundings) : Reply × Option Mailbox :=
  match Mailbox.open? config {} config.webhook.url.isSome s.now, tables with
  | .error why, _ => (.ofMailError why, none)
  | .ok _, .error why => (.ofMailError why, none)
  | .ok m, .ok tables =>
    let (reply, m) := i.command.answer s { m with tables }
    (reply, some m)

end Letterbox
