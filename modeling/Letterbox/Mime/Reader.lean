import Letterbox.Mime.Base64
import Letterbox.Mime.Boundary
import Letterbox.Mime.Part
import Letterbox.Mime.Quoted
import Letterbox.Mime.Unstructured

namespace Letterbox.Mime

namespace Reader

inductive Kind where
  | mixed
  | alternative
  | related
  | digest
  | plain
  | html
  | otherText
  | media
  | message
  | other
  deriving DecidableEq, Repr

structure Nature where
  kind : Kind
  multipart : Bool
  inline : Bool
  text : Bool
  deriving DecidableEq, Repr

def natureOf (type : Option ContentType) (parent : Kind) : Nature :=
  match type with
  | some t =>
    let sub := (t.subkind.map String.ofList).getD ""
    match String.ofList t.kind with
    | "multipart" =>
      let kind := match sub with
        | "mixed" => Kind.mixed
        | "alternative" => .alternative
        | "related" => .related
        | "digest" => .digest
        | _ => .other
      ⟨kind, true, false, false⟩
    | "text" =>
      if sub == "plain" then ⟨.plain, false, true, true⟩
      else if sub == "html" then ⟨.html, false, true, true⟩
      else ⟨.otherText, false, false, true⟩
    | "image" | "audio" | "video" => ⟨.media, false, true, false⟩
    | "message" =>
      if sub == "rfc822" || sub == "global" then ⟨.message, false, false, false⟩
      else ⟨.other, false, false, false⟩
    | _ => ⟨.other, false, false, false⟩
  | none =>
    if parent = .digest then ⟨.message, false, false, false⟩ else ⟨.plain, false, true, true⟩

structure Frame where
  kind : Kind := .message
  boundary : Option Bytes := none
  inAlternative : Bool := false
  seen : Nat := 0
  htmlBefore : Nat := 0
  textBefore : Nat := 0
  needHtml : Bool := true
  needText : Bool := true
  place : Nat := 0
  children : List Nat := []
  start : Bytes := []

structure Waiting where
  frame : Frame
  outer : Option Message

structure State where
  frame : Frame := {}
  message : Message := ⟨[], [], []⟩
  stack : List Waiting := []

def Message.empty : Message := ⟨[], [], []⟩

def Message.add (m : Message) (p : Part) : Message :=
  { m with parts := m.parts ++ [p] }

def Message.setBody (m : Message) (place : Nat) (b : Body) : Message :=
  { m with parts := m.parts.modify place fun p => { p with body := b } }

def Frame.bytesUpTo (f : Frame) (left : Nat) : Bytes :=
  f.start.take (f.start.length - left)

def State.closeMessage (st : State) (w : Waiting) (outer : Message) (stack : List Waiting)
    (left : Nat) : State :=
  { frame := { w.frame with boundary := st.frame.boundary }
    message := Message.setBody outer st.frame.place (.message (st.frame.bytesUpTo left))
    stack := stack }

def State.shareBodies (st : State) : Message :=
  let f := st.frame
  let m := st.message
  if f.kind = .alternative && f.needHtml && f.needText then
    let m :=
      if f.textBefore == m.textBody.length && f.htmlBefore != m.htmlBody.length then
        { m with textBody := m.textBody ++ m.htmlBody.drop f.htmlBefore }
      else m
    if f.htmlBefore == m.htmlBody.length && f.textBefore != m.textBody.length then
      { m with htmlBody := m.htmlBody ++ m.textBody.drop f.textBefore }
    else m
  else m

def State.close (st : State) (left : Nat) (rest : Bytes) : List Waiting → State × Option Bytes
  | [] => (st, none)
  | w :: stack =>
    match w.outer with
    | some outer => (st.closeMessage w outer stack left).close left rest stack
    | none =>
      let (last, rest) := Boundary.isLast rest
      if last then
        let m := Message.setBody st.shareBodies st.frame.place (.multipart st.frame.children)
        let st : State := { frame := w.frame, message := m, stack := stack }
        match w.frame.boundary with
        | none => (st, none)
        | some b =>
          match Boundary.segment b [] rest with
          | some seg =>
            st.close (seg.lineEnd.length + 2 + b.length + seg.rest.length) seg.rest stack
          | none => (st, none)
      else ({ st with stack := w :: stack }, some rest)

def State.finish (st : State) : List Waiting → Message
  | [] => st.message
  | w :: stack =>
    match w.outer with
    | some outer => (st.closeMessage w outer stack 0).finish stack
    | none =>
      let m := Message.setBody st.message st.frame.place (.multipart st.frame.children)
      { frame := w.frame, message := m, stack := stack : State }.finish stack

inductive Encoding where
  | plain
  | base64
  | quoted
  deriving DecidableEq, Repr

def encodingOf (fields : List Field) : Encoding :=
  match (HeaderBlock.find? fields "Content-Transfer-Encoding").bind fun f =>
      if f.ended then Unstructured.read f.body else none with
  | some e =>
    if Text.sameAscii e "base64".toList then .base64
    else if Text.sameAscii e "quoted-printable".toList then .quoted
    else .plain
  | none => .plain

structure Stretch where
  text : Bytes
  lineEnd : Bytes
  left : Nat
  rest : Bytes
  found : Bool

def stretch (boundary : Option Bytes) (s : Bytes) : Stretch :=
  match boundary with
  | none => ⟨s, [], 0, [], false⟩
  | some b =>
    if b.isEmpty then ⟨s, [], 0, [], false⟩
    else match Boundary.segment b [] s with
      | some seg =>
        ⟨seg.text, seg.lineEnd, seg.lineEnd.length + 2 + b.length + seg.rest.length, seg.rest, true⟩
      | none => ⟨s, [], 0, [], false⟩

def Stretch.decode (x : Stretch) (boundary : Option Bytes) (e : Encoding) : Option Bytes :=
  let bounded := boundary.any fun b => !b.isEmpty
  if bounded && !x.found then none
  else match e with
    | .plain => some x.text
    | .base64 => Base64.decode bounded {} [] x.text
    | .quoted =>
      match Quoted.decode .none [] x.text with
      | none => none
      | some (bytes, escape) =>
        if !x.found then some bytes
        else match escape with
          | .none => some bytes
          | .opened =>
            if x.lineEnd.isEmpty then none
            else some (bytes.take (bytes.length - x.lineEnd.length))
          | .half _ => none

def showsInBody (n : Nature) (f : Frame) (p : Part) : Bool :=
  n.inline && !(p.disposition.any fun d => Text.sameAscii d.kind "attachment".toList) &&
    (f.seen == 1 || (f.kind != .related &&
      (n.kind = .media || !(p.contentType.any fun t => (t.attribute? "name").isSome))))

def placement (n : Nature) (f : Frame) (shown : Bool) : (Bool × Bool) × Frame :=
  if f.kind = .alternative then
    ((n.kind = .html, n.kind = .plain), f)
  else if shown then
    let f :=
      if f.inAlternative && (f.needText || f.needHtml) then
        if n.kind = .html then { f with needText := false }
        else if n.kind = .plain then { f with needHtml := false }
        else f
      else f
    ((f.needHtml, f.needText), f)
  else ((false, false), f)

def charsetOf (type : Option ContentType) : Charset :=
  ((type.bind fun t => t.attribute? "charset").bind fun c =>
    Charset.ofName? (Text.encode c)).getD Charset.utf8

def readsAsMessage (s : Bytes) : Bool :=
  let h := HeaderBlock.read s
  h.closed || !h.fields.isEmpty

def State.addLeaf (st : State) (n : Nature) (p : Part) (x : Stretch) (bytes : Option Bytes) :
    State :=
  let n : Nature := if bytes.isSome then n else ⟨.otherText, n.multipart, false, true⟩
  let bytes := bytes.getD x.text
  if n.kind = .message then
    let body := if readsAsMessage bytes then Body.message bytes else .binary bytes
    { st with message := Message.add st.message { p with body := body } }
  else
    let shown := showsInBody n st.frame p
    let (joins, frame) := placement n st.frame shown
    let here := st.message.parts.length
    let body :=
      if !n.text then Body.binary bytes
      else
        let text := charsetOf p.contentType bytes
        if n.kind = .html then .html text else .text text
    let m := Message.add st.message { p with body := body }
    let m := if joins.1 then { m with htmlBody := m.htmlBody ++ [here] } else m
    let m := if joins.2 then { m with textBody := m.textBody ++ [here] } else m
    { st with frame := frame, message := m }

/-- Reads parts one after the other. The fuel bounds the number of bytes. Gives the message and the
fields of a header that the input ends in. -/
def run : Nat → State → Bytes → Message × List Field
  | 0, st, _ => (st.finish st.stack, [])
  | fuel + 1, st, s =>
    let st := { st with frame := { st.frame with start := s } }
    let h := HeaderBlock.read s
    if !h.closed then (st.finish st.stack, h.fields)
    else
      let here := st.message.parts.length
      let frame := { st.frame with
        seen := st.frame.seen + 1
        children := st.frame.children ++ [here] }
      let st := { st with frame := frame }
      let p : Part := { fields := h.fields, body := .multipart [] }
      let n := natureOf p.contentType st.frame.kind
      let boundary :=
        if n.multipart then p.contentType.bind fun t => t.attribute? "boundary" else none
      match boundary.bind fun b =>
          (Boundary.seek (Text.encode b) false h.rest).map fun r => (b, r) with
      | some (b, rest) =>
        let inner : Frame := {
          kind := n.kind
          boundary := some (Text.encode b)
          inAlternative := frame.inAlternative || n.kind = .alternative
          htmlBefore := st.message.htmlBody.length
          textBefore := st.message.textBody.length
          needHtml := frame.needHtml
          needText := frame.needText
          place := here }
        run fuel { frame := inner, message := Message.add st.message p
                   stack := ⟨frame, none⟩ :: st.stack } (Boundary.skipLineEnd rest)
      | none =>
        let n : Nature := if boundary.isSome then ⟨.otherText, true, n.inline, true⟩ else n
        let encoding := encodingOf h.fields
        if n.kind = .message && encoding = .plain then
          let inner : Frame := { boundary := frame.boundary, place := here }
          run fuel { frame := inner, message := Message.empty
                     stack := ⟨{ frame with boundary := none }, some (Message.add st.message p)⟩ ::
                       st.stack } h.rest
        else
          let x := stretch frame.boundary h.rest
          let st := st.addLeaf n p x (x.decode frame.boundary encoding)
          if x.found then
            match st.close x.left x.rest st.stack with
            | (st, some rest) => run fuel st rest
            | (st, none) => (st.finish st.stack, [])
          else (st.finish st.stack, [])

end Reader

def Message.read? (s : Bytes) : Option Message :=
  let (m, fields) := Reader.run (s.length + 1) {} s
  if !m.parts.isEmpty then some m
  else if !fields.isEmpty then some { m with parts := [{ fields := fields, body := .text [] }] }
  else none

namespace Message

def field? (m : Message) (name : String) : Option Field :=
  m.parts.head?.bind fun p => HeaderBlock.find? p.fields name

end Message

end Letterbox.Mime
