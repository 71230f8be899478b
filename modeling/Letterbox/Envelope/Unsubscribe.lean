import Letterbox.Text.Blank
import Letterbox.Text.Lines
import Letterbox.Text.Lowercase

namespace Letterbox

open Text

structure Unsubscribe where
  header : String
  links : List String := []
  errors : List String := []
  post : String := ""
  deriving DecidableEq, Repr, Inhabited

namespace Unsubscribe

inductive Problem where
  | bare (item : List Char)
  | emptyMailto
  | blankInside (uri : List Char)
  | unknownScheme (uri : List Char)
  | unexpectedPost (value : List Char)
  deriving DecidableEq, Repr

def quoted (s : List Char) (rest : String) : String :=
  String.ofList ('"' :: s ++ '"' :: rest.toList)

def Problem.message : Problem → String
  | .bare item => quoted item " is not enclosed in angle brackets"
  | .emptyMailto => "empty mailto: address"
  | .blankInside uri => quoted uri " contains whitespace"
  | .unknownScheme uri => quoted uri " is not a mailto: or http(s) link"
  | .unexpectedPost value => "unexpected List-Unsubscribe-Post value " ++ quoted value ""

def items (header : List Char) : List (List Char) :=
  ((splitAt (· == ',') header).map trim).filter fun i => !i.isEmpty

def inside? : List Char → Option (List Char)
  | '<' :: rest => if rest.getLast? == some '>' then some rest.dropLast else none
  | _ => none

def hasScheme (scheme : String) (uri : List Char) : Bool :=
  scheme.toList.isPrefixOf (lowerAscii uri)

def readItem (item : List Char) : Except Problem (List Char) :=
  match inside? item with
  | none => .error (.bare item)
  | some inner =>
    let uri := trim inner
    if hasScheme "mailto:" uri then
      if uri.length == 7 then .error .emptyMailto else .ok uri
    else if hasScheme "http://" uri || hasScheme "https://" uri then
      if uri.any isBlank then .error (.blankInside uri) else .ok uri
    else .error (.unknownScheme uri)

def link? (item : List Char) : Option String :=
  match readItem item with
  | .ok uri => some (String.ofList uri)
  | .error _ => none

def problem? (item : List Char) : Option String :=
  match readItem item with
  | .ok _ => none
  | .error p => some p.message

def oneClick : List Char :=
  "List-Unsubscribe=One-Click".toList

def postProblems (post : List Char) : List String :=
  if post.isEmpty || sameAscii post oneClick then []
  else [(Problem.unexpectedPost post).message]

def parse (header post : String) : Option Unsubscribe :=
  let header := trim header.toList
  let post := trim post.toList
  if header.isEmpty then none
  else some {
    header := String.ofList header
    links := (items header).filterMap link?
    errors := (items header).filterMap problem? ++ postProblems post
    post := String.ofList post }

def write (links : List String) : String :=
  String.ofList (joinWith [',', ' '] (links.map fun l => '<' :: l.toList ++ ['>']))

end Unsubscribe

end Letterbox
