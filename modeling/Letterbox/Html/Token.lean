import Letterbox.Html.Entity

namespace Letterbox.Html

abbrev Attribute := List Char × List Char

inductive TextKind where
  | blank
  | nul
  | other
  deriving DecidableEq, Repr

inductive Token where
  | open (name : String) (attributes : List Attribute) (selfClosing : Bool)
  | close (name : String)
  | text (kind : TextKind) (s : List Char)
  | comment
  | nothing
  | doctype (text : List Char)
  | eof
  deriving Repr

inductive Mode where
  | data
  | escapable (element : String)
  | raw (element : String)
  | script
  | plain
  deriving DecidableEq, Repr

namespace Token

open Letterbox.Text

def isSpace (c : Char) : Bool :=
  c == ' ' || c == '\n' || c == '\t' || c.toNat == 12 || c == '\r'

def kindOf (c : Char) : TextKind :=
  if isSpace c then .blank else if c.toNat == 0 then .nul else .other

def isLetter (c : Char) : Bool :=
  c.toNat < 128 && c.isAlpha

def nameChar (c : Char) : Char :=
  if c.toNat == 0 then '\uFFFD' else c.toLower

def normalize : List Char → List Char
  | [] => []
  | '\r' :: '\n' :: rest => '\n' :: normalize rest
  | '\r' :: rest => '\n' :: normalize rest
  | c :: rest => c :: normalize rest

def textRun (stop : Char → Bool) (c : Char) (rest : List Char) : Token × List Char :=
  let kind := kindOf c
  let inside := fun d => kindOf d == kind && !stop d
  (.text kind (c :: rest.takeWhile inside), rest.dropWhile inside)

def after? (p : List Char) : List Char → Option (List Char)
  | [] => if p.isEmpty then some [] else none
  | c :: rest => if Entity.startsWith p (c :: rest) then some ((c :: rest).drop p.length)
    else after? p rest

def afterComment : List Char → List Char
  | [] => []
  | '-' :: '-' :: '>' :: rest => rest
  | '-' :: '-' :: '!' :: '>' :: rest => rest
  | _ :: rest => afterComment rest

def readComment (s : List Char) : Token × List Char :=
  match s with
  | '>' :: rest => (.comment, rest)
  | '-' :: '>' :: rest => (.comment, rest)
  | s => (.comment, afterComment s)

def afterBracket (s : List Char) : List Char :=
  (s.dropWhile (· != '>')).drop 1

def startsWithWord (word : String) (s : List Char) : Bool :=
  Entity.startsWith word.toList ((s.take word.length).map Char.toLower)

def attributeValue (stop : Char → Bool) : Nat → List Char → Option (List Char × List Char)
  | 0, _ => none
  | _ + 1, [] => none
  | fuel + 1, c :: rest =>
    if stop c then some ([], c :: rest)
    else if c == '&' then
      match Entity.read true rest with
      | some (chars, rest) => (attributeValue stop fuel rest).map fun r => (chars ++ r.1, r.2)
      | none => (attributeValue stop fuel rest).map fun r => (c :: r.1, r.2)
    else
      let c := if c.toNat == 0 then '\uFFFD' else c
      (attributeValue stop fuel rest).map fun r => (c :: r.1, r.2)

def addAttribute (l : List Attribute) (a : Attribute) : List Attribute :=
  if l.any fun b => b.1 == a.1 then l else l ++ [a]

def endsName (c : Char) : Bool :=
  isSpace c || c == '/' || c == '>' || c == '='

def attributes : Nat → List Attribute → List Char → Option (List Attribute × Bool × List Char)
  | 0, _, _ => none
  | _ + 1, _, [] => none
  | fuel + 1, l, c :: rest =>
    if isSpace c then attributes fuel l rest
    else if c == '>' then some (l, false, rest)
    else if c == '/' then
      match rest with
      | '>' :: rest => some (l, true, rest)
      | rest => attributes fuel l rest
    else
      let inName := fun d => !endsName d
      let name := nameChar c :: (rest.takeWhile inName).map nameChar
      match (rest.dropWhile inName).dropWhile isSpace with
      | '=' :: rest =>
        match rest.dropWhile isSpace with
        | [] => none
        | '>' :: rest => some (addAttribute l (name, []), false, rest)
        | q :: rest =>
          if q == '"' || q.toNat == 39 then
            match attributeValue (· == q) (rest.length + 1) rest with
            | some (value, rest) => attributes fuel (addAttribute l (name, value)) (rest.drop 1)
            | none => none
          else
            match attributeValue (fun d => isSpace d || d == '>') (rest.length + 2) (q :: rest) with
            | some (value, rest) => attributes fuel (addAttribute l (name, value)) rest
            | none => none
      | rest => attributes fuel (addAttribute l (name, [])) rest

def endsTagName (c : Char) : Bool :=
  isSpace c || c == '/' || c == '>'

def tag (opening : Bool) (s : List Char) : Token × List Char :=
  let inName := fun c => !endsTagName c
  let name := String.ofList ((s.takeWhile inName).map nameChar)
  match attributes (s.length + 1) [] (s.dropWhile inName) with
  | some (l, selfClosing, rest) => (if opening then .open name l selfClosing else .close name, rest)
  | none => (.eof, [])

def markup (foreign : Bool) (s : List Char) : Token × List Char :=
  match s with
  | '!' :: '-' :: '-' :: rest => readComment rest
  | '!' :: rest =>
    if startsWithWord "doctype" rest then
      let body := rest.drop 7
      (.doctype (body.takeWhile (· != '>')), afterBracket body)
    else if foreign && Entity.startsWith "[CDATA[".toList rest then
      let body := rest.drop 7
      match after? "]]>".toList body with
      | some after => (.text .other (body.take (body.length - after.length - 3)), after)
      | none => (.text .other body, [])
    else (.comment, afterBracket rest)
  | '/' :: c :: rest =>
    if isLetter c then tag false (c :: rest)
    else if c == '>' then (.nothing, rest)
    else (.comment, afterBracket (c :: rest))
  | '/' :: [] => (.text .other ['<', '/'], [])
  | '?' :: rest => (.comment, afterBracket rest)
  | c :: rest => if isLetter c then tag true (c :: rest) else (.text .other ['<'], c :: rest)
  | [] => (.text .other ['<'], [])

def closes (element : String) (s : List Char) : Bool :=
  match s with
  | '<' :: '/' :: rest =>
    startsWithWord element rest && ((rest.drop element.length).head?.any endsTagName)
  | _ => false

inductive ScriptState where
  | normal
  | escaped
  | nested
  deriving DecidableEq, Repr

def scriptText (st : ScriptState) (acc : List Char) : List Char → List Char × List Char
  | [] => (acc, [])
  | c :: rest =>
    let s := c :: rest
    if st != .nested && closes "script" s then (acc, s)
    else
      let st :=
        if st == .normal && Entity.startsWith "<!--".toList s then ScriptState.escaped
        else if st != .normal && Entity.startsWith "-->".toList s then .normal
        else if st == .escaped && c == '<' && startsWithWord "script" rest &&
            (rest.drop 6).head?.any endsTagName then .nested
        else if st == .nested && closes "script" s then .escaped
        else st
      scriptText st (c :: acc) rest

def rawText (element : String) : List Char → List Char × List Char
  | [] => ([], [])
  | c :: rest =>
    if closes element (c :: rest) then ([], c :: rest)
    else let r := rawText element rest; (c :: r.1, r.2)

def reference (rest : List Char) : Token × List Char :=
  match Entity.read false rest with
  | some (chars, rest) =>
    (.text (if chars.all isSpace then .blank else .other) chars, rest)
  | none => (.text .other ['&'], rest)

def next (mode : Mode) (foreign : Bool) (s : List Char) : Token × List Char :=
  match s with
  | [] => (.eof, [])
  | c :: rest =>
    match mode with
    | .data =>
      if c == '<' then markup foreign rest
      else if c == '&' then reference rest
      else textRun (fun d => d == '<' || d == '&') c rest
    | .escapable element =>
      if closes element (c :: rest) then tag false (rest.drop 1)
      else if c == '&' then reference rest
      else if c == '<' then (.text .other ['<'], rest)
      else textRun (fun d => d == '<' || d == '&') c rest
    | .raw element =>
      if closes element (c :: rest) then tag false (rest.drop 1)
      else let r := rawText element (c :: rest); (.text .other r.1, r.2)
    | .script =>
      if closes "script" (c :: rest) then tag false (rest.drop 1)
      else let r := scriptText .normal [] (c :: rest); (.text .other r.1.reverse, r.2)
    | .plain => (.text .other s, [])

end Token

end Letterbox.Html
