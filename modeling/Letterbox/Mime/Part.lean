import Letterbox.Mime.ContentType
import Letterbox.Mime.Field

namespace Letterbox.Mime

inductive Body where
  | text (text : List Char)
  | html (text : List Char)
  | binary (bytes : Bytes)
  | message (bytes : Bytes)
  | multipart (children : List Nat)
  deriving DecidableEq, Repr

structure Part where
  fields : List Field
  body : Body
  deriving DecidableEq, Repr

structure Message where
  parts : List Part
  textBody : List Nat
  htmlBody : List Nat
  deriving DecidableEq, Repr

def Body.text? : Body → Option (List Char)
  | .text t => some t
  | _ => none

def Body.html? : Body → Option (List Char)
  | .html t => some t
  | _ => none

def Message.body? (m : Message) (place : Nat) : Option Body :=
  (m.parts[place]?).map fun p => p.body

namespace Part

def contentType (p : Part) : Option ContentType :=
  (HeaderBlock.find? p.fields "Content-Type").bind fun f => ContentType.read f.body f.ended

def disposition (p : Part) : Option ContentType :=
  (HeaderBlock.find? p.fields "Content-Disposition").bind fun f => ContentType.read f.body f.ended

def fileName (p : Part) : Option (List Char) :=
  match p.disposition.bind fun d => d.attribute? "filename" with
  | some n => some n
  | none => p.contentType.bind fun t => t.attribute? "name"

def contents (p : Part) : Bytes :=
  match p.body with
  | .text t => Text.encode t
  | .html t => Text.encode t
  | .binary b => b
  | .message b => b
  | .multipart _ => []

end Part

end Letterbox.Mime
