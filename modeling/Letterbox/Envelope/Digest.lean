import Letterbox.Envelope.Basic
import Letterbox.Html.Text

namespace Letterbox.Envelope

open Text

def searchedHeaders : List String :=
  ["From", "Subject", "To", "Cc", "Bcc", "Reply-To", "Return-Path"]

def bodyPieces (e : Envelope) : List String :=
  if !allBlank e.text.toList then [e.text]
  else if !e.html.isEmpty then [Html.toText e.html]
  else []

def pieces (e : Envelope) : List String :=
  ((searchedHeaders.map e.header).filter fun v => !v.isEmpty) ++
  (if e.subject.isEmpty then [] else [e.subject]) ++
  (e.senders ++ e.recipients ++ e.copies ++ e.blindCopies ++ e.replyTo).map Address.display ++
  e.bodyPieces ++
  (((e.attachments ++ e.inlines).map Part.fileName).filter fun n => !n.isEmpty)

def assembled (e : Envelope) : List Char :=
  collapse (joinWith [' '] (e.pieces.map String.toList))

def searchText (e : Envelope) : String :=
  String.ofList (lower e.assembled)

def snippetLength : Nat := 200

def previewed (e : Envelope) : List Char :=
  collapse (if !allBlank e.html.toList then Html.toText e.html else e.text).toList

def snippet (e : Envelope) : String :=
  let s := e.previewed
  if s.length ≤ snippetLength then String.ofList s
  else String.ofList (trimRight (s.take snippetLength) ++ ['.', '.', '.'])

end Letterbox.Envelope
