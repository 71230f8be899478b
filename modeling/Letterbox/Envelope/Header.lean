import Letterbox.Text.Blank
import Letterbox.Text.Lines
import Letterbox.Text.Lowercase
import Letterbox.Text.Utf8

namespace Letterbox.Header

open Letterbox.Text

def block : Bytes → Bytes
  | [] => []
  | 10 :: 10 :: _ => []
  | 13 :: 10 :: 13 :: 10 :: _ => []
  | b :: rest => b :: block rest

abbrev Field := List Char × List Char

def isContinuation : List Char → Bool
  | c :: _ => c == ' ' || c == '\t'
  | [] => false

def begin? (line : List Char) : Option (Option Field) :=
  (cut (· == ':') line).map fun (name, value) =>
    let name := trim name
    if name.isEmpty || name.any isBlank then none else some (lower name, trim value)

def extend (open? : Option Field) (line : List Char) : Option Field :=
  open?.map fun f => (f.1, f.2 ++ ' ' :: trim line)

def unfold (open? : Option Field) : List (List Char) → List Field
  | [] => open?.toList
  | line :: rest =>
    if isContinuation line then unfold (extend open? line) rest
    else match begin? line with
      | some next => open?.toList ++ unfold next rest
      | none => unfold open? rest

def fields (text : List Char) : List Field :=
  unfold none (lines text)

def read (raw : Bytes) : List Field :=
  fields (decode (block raw))

end Letterbox.Header
