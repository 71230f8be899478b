import Letterbox.CommandLine.Command
import Letterbox.Text.Decimal

namespace Letterbox

open Text

inductive OptionName where
  | settings
  | dataFile
  | offset
  | limit
  deriving DecidableEq, Repr

inductive Misuse where
  | noCommand
  | unknownCommand (name : String)
  | unexpected (argument : String)
  | repeated (option : OptionName)
  | missingValue (option : OptionName)
  | badValue (option : OptionName) (value : String)
  | emptyFileName
  | missingOperand (label : String)
  deriving DecidableEq, Repr

inductive HelpTopic where
  | program
  | verb (verb : Verb)
  | help
  deriving DecidableEq, Repr

inductive Refusal where
  | help (topic : HelpTopic)
  | misuse (why : Misuse)
  deriving DecidableEq, Repr

namespace OptionName

def long : OptionName → String
  | settings => "config"
  | dataFile => "data-file"
  | offset => "offset"
  | limit => "limit"

def short? : OptionName → Option Char
  | settings => some 'c'
  | dataFile => some 'd'
  | _ => none

def available (verb : Option Verb) : List OptionName :=
  if verb.any Verb.isPaged then [settings, dataFile, offset, limit] else [settings, dataFile]

end OptionName

inductive Argument where
  | plain (text : String)
  | endOfOptions
  | help
  | option (name : OptionName) (value : Option String)
  | unknown (text : String)
  deriving DecidableEq, Repr

namespace Argument

def ofLong (known : List OptionName) (s : List Char) : Argument :=
  let name := String.ofList (s.takeWhile (· != '='))
  match known.find? fun o => o.long == name, s.dropWhile (· != '=') with
  | some o, [] => .option o none
  | some o, _ :: value => .option o (some (String.ofList value))
  | none, [] => if name == "help" then .help else .unknown ("--" ++ name)
  | none, _ => .unknown ("--" ++ name)

def ofShort (known : List OptionName) (letter : Char) (s : List Char) : Argument :=
  match known.find? fun o => o.short? == some letter with
  | some o =>
    match s with
    | [] => .option o none
    | '=' :: value => .option o (some (String.ofList value))
    | value => .option o (some (String.ofList value))
  | none => if letter == 'h' then .help else .unknown (String.ofList ['-', letter])

def read (known : List OptionName) (s : String) : Argument :=
  match s.toList with
  | ['-', '-'] => .endOfOptions
  | '-' :: '-' :: rest => ofLong known rest
  | '-' :: letter :: rest => ofShort known letter rest
  | _ => .plain s

end Argument

structure Given where
  settingsFile : Option String := none
  dataFile : Option String := none
  offset : Option UInt64 := none
  limit : Option UInt64 := none
  operands : List String := []
  deriving DecidableEq, Repr

namespace Given

def number? (s : String) : Option UInt64 :=
  let ds := match s.toList with
    | '+' :: rest => rest
    | rest => rest
  if ds.isEmpty || !ds.all isDigit then none
  else
    let n := ofDigits ds
    if n < 18446744073709551616 then some n.toUInt64 else none

def fresh {α : Type} (o : OptionName) (known : Option α) (read : String → Option α)
    (value : String) : Except Refusal (Option α) :=
  match read value with
  | none => .error (.misuse (.badValue o value))
  | some a => if known.isSome then .error (.misuse (.repeated o)) else .ok (some a)

def fileName? (s : String) : Option String :=
  if s.isEmpty then none else some s

def put (g : Given) (o : OptionName) (value : String) : Except Refusal Given :=
  match o with
  | .settings => (fresh o g.settingsFile fileName? value).map fun v => { g with settingsFile := v }
  | .dataFile => (fresh o g.dataFile fileName? value).map fun v => { g with dataFile := v }
  | .offset => (fresh o g.offset number? value).map fun v => { g with offset := v }
  | .limit => (fresh o g.limit number? value).map fun v => { g with limit := v }

def add (g : Given) (verb : Verb) (s : String) : Except Refusal Given :=
  let accepted : Except Refusal Given := .ok { g with operands := g.operands ++ [s] }
  match verb.operands with
  | .none => .error (.misuse (.unexpected s))
  | .one _ => if g.operands.isEmpty then accepted else .error (.misuse (.unexpected s))
  | .some _ =>
    if verb.takesFiles && s.isEmpty then .error (.misuse .emptyFileName) else accepted

def addAll (g : Given) (verb : Verb) : List String → Except Refusal Given
  | [] => .ok g
  | s :: rest => (g.add verb s).bind fun g => g.addAll verb rest

def read (verb : Verb) (g : Given) : List String → Except Refusal Given
  | [] => .ok g
  | s :: rest =>
    let known := OptionName.available (some verb)
    match Argument.read known s with
    | .plain text => (g.add verb text).bind fun g => g.read verb rest
    | .endOfOptions => g.addAll verb rest
    | .help => .error (.help (.verb verb))
    | .unknown text => .error (.misuse (.unexpected text))
    | .option o (some value) => (g.put o value).bind fun g => g.read verb rest
    | .option o none =>
      match rest with
      | [] => .error (.misuse (.missingValue o))
      | value :: rest =>
        match Argument.read known value with
        | .plain value => (g.put o value).bind fun g => g.read verb rest
        | _ => .error (.misuse (.missingValue o))

def invocation (before after : Given) (verb : Verb) : Except Refusal Invocation :=
  let page : Page := { offset := after.offset.getD 0, limit := after.limit.getD 50 }
  match verb.command? after.operands page with
  | some command => .ok {
      settingsFile := after.settingsFile <|> before.settingsFile
      dataFile := after.dataFile <|> before.dataFile
      command }
  | none => .error (.misuse (.missingOperand verb.operands.label))

end Given

namespace Invocation

def helpOn : List String → Refusal
  | [] => .help .program
  | [name] =>
    match Verb.ofName? name with
    | some verb => .help (.verb verb)
    | none => if name == "help" then .help .help else .misuse (.unknownCommand name)
  | name :: other :: _ =>
    if (Verb.ofName? name).isSome || name == "help" then .misuse (.unknownCommand other)
    else .misuse (.unknownCommand name)

def readFrom (before : Given) : List String → Except Refusal Invocation
  | [] => .error (.misuse .noCommand)
  | s :: rest =>
    let known := OptionName.available none
    match Argument.read known s with
    | .plain name =>
      match Verb.ofName? name with
      | some verb => (Given.read verb {} rest).bind fun after => before.invocation after verb
      | none => if name == "help" then .error (helpOn rest)
        else .error (.misuse (.unknownCommand name))
    | .endOfOptions =>
      match rest with
      | [] => .error (.misuse .noCommand)
      | s :: _ => .error (.misuse (.unexpected s))
    | .help => .error (.help .program)
    | .unknown text => .error (.misuse (.unexpected text))
    | .option o (some value) => (before.put o value).bind fun before => readFrom before rest
    | .option o none =>
      match rest with
      | [] => .error (.misuse (.missingValue o))
      | value :: rest =>
        match Argument.read known value with
        | .plain value => (before.put o value).bind fun before => readFrom before rest
        | _ => .error (.misuse (.missingValue o))

def read (arguments : List String) : Except Refusal Invocation :=
  readFrom {} arguments

end Invocation

end Letterbox
