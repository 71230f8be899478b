namespace Letterbox

structure Page where
  offset : UInt64 := 0
  limit : UInt64 := 50
  deriving DecidableEq, Repr, Inhabited

inductive Command where
  | ingest (files : List String)
  | list (page : Page)
  | search (query : String) (page : Page)
  | show (id : String)
  | raw (id : String)
  | stats
  | delete (ids : List String)
  | deleteMatching (query : String)
  | deleteAll
  | prune
  | run
  deriving DecidableEq, Repr

structure Invocation where
  settingsFile : Option String := none
  dataFile : Option String := none
  command : Command
  deriving DecidableEq, Repr

inductive Verb where
  | ingest
  | list
  | search
  | show
  | raw
  | stats
  | delete
  | deleteMatching
  | deleteAll
  | prune
  | run
  deriving DecidableEq, Repr

inductive Operands where
  | none
  | one (label : String)
  | some (label : String)
  deriving DecidableEq, Repr

def Operands.label : Operands → String
  | none => ""
  | one label => label
  | some label => label

namespace Verb

def all : List Verb :=
  [ingest, list, search, «show», raw, stats, delete, deleteMatching, deleteAll, prune, run]

def name : Verb → String
  | ingest => "ingest"
  | list => "list"
  | search => "search"
  | «show» => "show"
  | raw => "raw"
  | stats => "stats"
  | delete => "delete"
  | deleteMatching => "delete-matching"
  | deleteAll => "delete-all"
  | prune => "prune"
  | run => "run"

def ofName? (s : String) : Option Verb :=
  all.find? fun v => v.name == s

def operands : Verb → Operands
  | ingest => .some "FILES"
  | search => .one "QUERY"
  | «show» => .one "ID"
  | raw => .one "ID"
  | delete => .some "IDS"
  | deleteMatching => .one "QUERY"
  | _ => .none

def isPaged : Verb → Bool
  | list => true
  | search => true
  | _ => false

def takesFiles : Verb → Bool
  | ingest => true
  | _ => false

def command? (v : Verb) (operands : List String) (page : Page) : Option Command :=
  match v, operands with
  | ingest, f :: rest => some (.ingest (f :: rest))
  | list, [] => some (.list page)
  | search, [query] => some (.search query page)
  | «show», [id] => some (.show id)
  | raw, [id] => some (.raw id)
  | stats, [] => some .stats
  | delete, id :: rest => some (.delete (id :: rest))
  | deleteMatching, [query] => some (.deleteMatching query)
  | deleteAll, [] => some .deleteAll
  | prune, [] => some .prune
  | run, [] => some .run
  | _, _ => none

end Verb

end Letterbox
