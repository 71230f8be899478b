import Letterbox.CommandLine.Answer
import Letterbox.Mailbox.Archive
import Letterbox.Mailbox.NewId
import Std.Async.Signal
import Std.Async.Timer
import Std.Time.DateTime.Timestamp

namespace Letterbox.Console

open Std.Async

def unreadable : IO.Error → Unreadable
  | .noFileOrDirectory .. => .missing
  | .inappropriateType _ code _ => if code == 21 then .isDirectory else .notDirectory
  | why => .other (toString why)

def readFile (path : String) : IO (Except Unreadable Bytes) := do
  try
    return .ok (← IO.FS.readBinFile path).toList
  catch why => return .error (unreadable why)

def environment : IO (List (String × String)) := do
  match ← readFile "/proc/self/environ" with
  | .error _ => return []
  | .ok raw =>
    let entries := (String.ofList (Text.decode raw)).splitOn "\x00"
    return entries.filterMap fun entry =>
      match entry.splitOn "=" with
      | name :: value :: more => some (name, "=".intercalate (value :: more))
      | _ => none

def now : IO Instant := do
  let nanos := (← Std.Time.Timestamp.now).toNanosecondsSinceUnixEpoch.val
  return { seconds := nanos / 1000000000, nanos := (nanos % 1000000000).toNat }

def filesOf (i : Invocation) : List String :=
  let settings := i.settingsFile.toList.flatMap fun f => [f, f ++ Invocation.formatEnding]
  match i.command with
  | .ingest files => settings ++ files
  | _ => settings

def surroundings (i : Invocation) : IO Surroundings := do
  let files := filesOf i
  let contents ← files.mapM readFile
  let ids ← files.mapM fun _ => return newId (← IO.getRandomBytes 16).toList
  return {
    now := ← now
    read := fun file => ((files.zip contents).lookup file).getD (.error .missing)
    newId := fun n => ids[n]?.getD "" }

def keptFile (config : Config) : Option String :=
  if config.keepsTables then config.storage.dataFile else none

def folderOf (file : String) : String :=
  "/".intercalate (file.splitOn "/").dropLast

def load (config : Config) : IO (Except MailError Tables) := do
  match keptFile config with
  | none => return .ok {}
  | some file =>
    match ← readFile file with
    | .ok content => return Tables.ofArchive? content
    | .error .missing => return .ok {}
    | .error _ => return .error (.unusableData .unreachable)

def save (m : Mailbox) : IO Unit := do
  match keptFile m.config with
  | none => return
  | some file =>
    let folder := folderOf file
    unless folder.isEmpty do IO.FS.createDirAll folder
    IO.FS.writeBinFile file (ByteArray.mk m.tables.archive.toArray)

def isStopped (seconds : Nat) : IO Bool := do
  let interrupt ← Signal.Waiter.mk .sigint false
  let terminate ← Signal.Waiter.mk .sigterm false
  Async.block do
    let pause ← Selector.sleep (Std.Time.Millisecond.Offset.ofNat (seconds * 1000))
    Selectable.one #[
      .case interrupt.selector fun _ => return true,
      .case terminate.selector fun _ => return true,
      .case pause fun _ => return false]

partial def attend (m : Mailbox) : IO Unit := do
  save m
  unless ← isStopped (max 1 m.config.retention.intervalSeconds.toNat) do
    attend (m.maintain (← now))

def write (r : Reply) : IO UInt32 := do
  let output ← IO.getStdout
  output.write (ByteArray.mk r.output.toArray)
  output.flush
  (← IO.getStderr).putStr r.errors
  return r.code.toUInt32

def carryOut (i : Invocation) : IO UInt32 := do
  let s ← surroundings i
  match i.settings? s.read (← environment) with
  | .error why => write (.ofFailure why)
  | .ok config =>
    let (reply, m) := i.answer config (← load config) s
    match m with
    | none => write reply
    | some m =>
      if i.command == .run then attend m else save m
      write reply

end Letterbox.Console

open Letterbox in
def main (arguments : List String) : IO UInt32 :=
  match Invocation.read arguments with
  | .error refusal => Console.write (.ofRefusal refusal)
  | .ok i => Console.carryOut i
