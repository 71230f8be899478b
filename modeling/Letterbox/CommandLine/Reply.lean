import Letterbox.CommandLine.Help
import Letterbox.Mailbox.Error
import Letterbox.Text.Utf8

namespace Letterbox

inductive Unreadable where
  | missing
  | notDirectory
  | isDirectory
  | other (why : String)
  deriving DecidableEq, Repr

def Unreadable.message : Unreadable → String
  | missing => "No such file or directory (os error 2)"
  | notDirectory => "Not a directory (os error 20)"
  | isDirectory => "Is a directory (os error 21)"
  | other why => why

inductive BadSettings where
  | missing (file : String)
  | unknownFormat (file : String)
  | invalid (file : String)
  deriving DecidableEq, Repr

def BadSettings.message : BadSettings → String
  | missing file => "configuration file \"" ++ file ++ "\" not found"
  | unknownFormat file =>
    "configuration file \"" ++ file ++ "\" is not of a registered file format"
  | invalid file => "configuration file \"" ++ file ++ "\" is not valid"

inductive Failure where
  | settings (why : BadSettings)
  | file (name : String) (why : Unreadable)
  | mail (why : MailError)
  deriving DecidableEq, Repr

namespace Failure

def message : Failure → String
  | settings _ => "loading configuration"
  | file name _ => "reading " ++ name
  | mail why => why.message

def causes : Failure → List String
  | settings why => ["Configuration error: " ++ why.message]
  | file _ why => [why.message]
  | mail why => why.causes

def code : Failure → UInt8
  | mail .ageOutOfRange => 101
  | _ => 1

def causesText : List String → String
  | [] => ""
  | [cause] => "\n\nCaused by:\n    " ++ cause
  | causes =>
    let line (n : Nat) (cause : String) :=
      "\n    " ++ String.ofList (Text.digits n) ++ ": " ++ cause
    "\n\nCaused by:" ++ String.join (causes.mapIdx line)

def text (f : Failure) : String :=
  "Error: " ++ f.message ++ causesText f.causes ++ "\n"

end Failure

structure Reply where
  code : UInt8 := 0
  output : Bytes := []
  errors : String := ""
  deriving DecidableEq, Repr

namespace Reply

def ofText (s : String) : Reply :=
  { output := Text.encode s.toList }

def ofFailure (f : Failure) : Reply :=
  { code := f.code, errors := f.text }

def before (first rest : Reply) : Reply :=
  { code := rest.code
    output := first.output ++ rest.output
    errors := first.errors ++ rest.errors }

def ofRefusal : Refusal → Reply
  | .help topic => ofText (Help.text topic)
  | .misuse .noCommand => { code := 2, errors := Help.text .program }
  | .misuse why =>
    { code := 2
      errors := "error: " ++ why.message ++ "\n\nFor more information, try '--help'.\n" }

end Reply

end Letterbox
