import Letterbox.CommandLine.Arguments

namespace Letterbox

def programName : String := "mailbox-rs"

namespace Verb

def about : Verb → String
  | ingest => "Store raw email files"
  | list => "List the newest messages"
  | search => "Search messages"
  | «show» => "Show a message as JSON (marks it read)"
  | raw => "Write the original raw message to stdout"
  | stats => "Print mailbox statistics"
  | delete => "Delete messages by id"
  | deleteMatching => "Delete every message matching a search query"
  | deleteAll => "Delete all messages and tags"
  | prune => "Apply the retention policy once"
  | run => "Run background maintenance until SIGINT/SIGTERM"

def operandAbout : Verb → String
  | ingest => "Files containing one raw message each"
  | «show» => "Message id, or \"latest\""
  | raw => "Message id, or \"latest\""
  | _ => ""

end Verb

namespace Operands

def usage : Operands → Option String
  | none => .none
  | one label => .some ("<" ++ label ++ ">")
  | some label => .some ("<" ++ label ++ ">...")

end Operands

namespace Help

def helpAbout : String := "Print this message or the help of the given subcommand(s)"

def table (heading : String) (rows : List (String × String)) : String :=
  let width := (rows.map fun r => r.1.length).foldl max 0
  let line (r : String × String) : String :=
    "  " ++ r.1 ++ String.ofList (List.replicate (width - r.1.length) ' ') ++ "  " ++ r.2 ++ "\n"
  "\n" ++ heading ++ ":\n" ++ String.join (rows.map line)

def optionRow : OptionName → String × String
  | .settings => ("-c, --config <CONFIG>", "TOML configuration file")
  | .dataFile => ("-d, --data-file <DATA_FILE>", "Database file (overrides the configuration)")
  | .offset => ("    --offset <OFFSET>", "[default: 0]")
  | .limit => ("    --limit <LIMIT>", "[default: 50]")

def optionOrder (paged : Bool) : List OptionName :=
  if paged then [.settings, .offset, .dataFile, .limit] else [.settings, .dataFile]

def options (paged : Bool) : String :=
  table "Options" ((optionOrder paged).map optionRow ++ [("-h, --help", "Print help")])

def page (about usage : String) (tables : List String) : String :=
  about ++ "\n\nUsage: " ++ programName ++ " " ++ usage ++ "\n" ++ String.join tables

def text : HelpTopic → String
  | .program =>
    page "Store and query captured email" "[OPTIONS] <COMMAND>" [
      table "Commands" (Verb.all.map (fun v => (v.name, v.about)) ++ [("help", helpAbout)]),
      options false]
  | .verb v =>
    match v.operands.usage with
    | none => page v.about (v.name ++ " [OPTIONS]") [options v.isPaged]
    | some operands =>
      page v.about (v.name ++ " [OPTIONS] " ++ operands) [
        table "Arguments" [(operands, v.operandAbout)],
        options v.isPaged]
  | .help =>
    page helpAbout "help [COMMAND]..." [
      table "Arguments" [("[COMMAND]...", "Print help for the subcommand(s)")]]

end Help

namespace Misuse

def message : Misuse → String
  | noCommand => "a subcommand is required but one was not provided"
  | unknownCommand name => "unrecognized subcommand '" ++ name ++ "'"
  | unexpected argument => "unexpected argument '" ++ argument ++ "' found"
  | repeated option =>
    "the argument '--" ++ option.long ++ "' cannot be used multiple times"
  | missingValue option =>
    "a value is required for '--" ++ option.long ++ "' but none was supplied"
  | badValue option value =>
    "invalid value '" ++ value ++ "' for '--" ++ option.long ++ "'"
  | emptyFileName => "a value is required for '<FILES>...' but none was supplied"
  | missingOperand label =>
    "the following required arguments were not provided: <" ++ label ++ ">"

end Misuse

end Letterbox
