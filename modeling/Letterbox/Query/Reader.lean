import Letterbox.Query.Basic
import Letterbox.Text.Lines
import Letterbox.Text.Lowercase

namespace Letterbox.Query

open Text

def tokensFrom (quoted : Bool) (current : List Char) : List Char → List (List Char)
  | [] => if current.isEmpty then [] else [current.reverse]
  | c :: rest =>
    if c == '"' then tokensFrom (!quoted) current rest
    else if isBlank c && !quoted then
      if current.isEmpty then tokensFrom false [] rest
      else current.reverse :: tokensFrom false [] rest
    else tokensFrom quoted (c :: current) rest

def tokens (s : List Char) : List (List Char) :=
  tokensFrom false [] s

def fieldOf? (name : List Char) : Option Field :=
  Field.all.find? fun f => f.name.toList == name

def flagOf? (name value : List Char) : Option Flag :=
  match String.ofList name, String.ofList value with
  | "is", "read" => some .read
  | "is", "unread" => some .unread
  | "is", "tagged" => some .tagged
  | "has", "attachment" => some .attachment
  | "has", "attachments" => some .attachment
  | "has", "inline" => some .inlinePart
  | _, _ => none

def sideOf? (name : List Char) : Option Side :=
  if name == Side.before.name.toList then some .before
  else if name == Side.after.name.toList then some .after
  else none

def prefixed? (name value : List Char) : Option Condition :=
  if value.isEmpty then none
  else match fieldOf? name with
  | some f => some (.field f (String.ofList value))
  | none =>
    match flagOf? name (lower value) with
    | some f => some (.flag f)
    | none => (sideOf? name).bind fun side => (Date.read? value).map (.date side)

def Condition.ofToken (token : List Char) : Condition :=
  match (cut (· == ':') token).bind fun r => prefixed? (lower r.1) r.2 with
  | some c => c
  | none => .text (String.ofList token)

def isNegation (c : Char) : Bool :=
  c == '-' || c == '!'

def Term.ofToken : List Char → Term
  | c :: d :: rest =>
    if isNegation c then ⟨.ofToken (d :: rest), true⟩ else ⟨.ofToken (c :: d :: rest), false⟩
  | token => ⟨.ofToken token, false⟩

def parse (query : String) : List Term :=
  (tokens query.toList).map Term.ofToken

end Letterbox.Query
