import Letterbox.Html.Document

namespace Letterbox.Html

inductive Stage where
  | initial
  | beforeHtml
  | beforeHead
  | inHead
  | inHeadNoscript
  | afterHead
  | inBody
  | text
  | inTable
  | inTableText
  | inCaption
  | inColumns
  | inTableBody
  | inRow
  | inCell
  | inSelect
  | inSelectInTable
  | inTemplate
  | afterBody
  | inFrameset
  | afterFrameset
  | afterAfterBody
  | afterAfterFrameset
  deriving DecidableEq, Repr

inductive Formatting where
  | marker
  | element (node : Nat)
  deriving DecidableEq, Repr

structure Builder where
  document : Document := {}
  stack : List Nat := []
  formatting : List Formatting := []
  stage : Stage := .initial
  returnTo : Stage := .initial
  templateStages : List Stage := []
  templates : List (Nat × Nat) := []
  head : Option Nat := none
  form : Option Nat := none
  framesetAllowed : Bool := true
  fostering : Bool := false
  tableText : List (TextKind × List Char) := []
  legacy : Bool := false
  mode : Mode := .data
  skipLineFeed : Bool := false
  stopped : Bool := false

namespace Builder

def current (b : Builder) : Nat :=
  b.stack.head?.getD 0

def isNamed (b : Builder) (names : List String) (n : Nat) : Bool :=
  b.document.isNamed names n

def currentIs (b : Builder) (names : List String) : Bool :=
  !b.stack.isEmpty && b.isNamed names b.current

def enter (b : Builder) (s : Stage) : Builder :=
  { b with stage := s }

def contentsOf (b : Builder) (n : Nat) : Nat :=
  ((b.templates.find? fun t => t.1 == n).map (·.2)).getD n

def above (n : Nat) : List Nat → Option Nat
  | [] => none
  | m :: rest => if m == n then rest.head? else above n rest

def place (b : Builder) (target : Nat) : Document.Position :=
  if b.fostering && b.isNamed ["table", "tbody", "tfoot", "thead", "tr"] target then
    let table := b.stack.find? (b.isNamed ["table"])
    let template := b.stack.find? (b.isNamed ["template"])
    match template, table with
    | some u, some t =>
      if b.stack.idxOf u < b.stack.idxOf t then { parent := b.contentsOf u } else aroundTable b t
    | some u, none => { parent := b.contentsOf u }
    | none, some t => aroundTable b t
    | none, none => { parent := b.stack.getLast?.getD 0 }
  else { parent := b.contentsOf target }
where
  aroundTable (b : Builder) (t : Nat) : Document.Position :=
    match (b.document.node t).parent with
    | some p => { parent := p, before := some t }
    | none => { parent := b.contentsOf ((above t b.stack).getD 0) }

def create (b : Builder) (space : Space) (name : String) (l : List Attribute) : Builder × Nat :=
  let (d, n) := b.document.add (.element space name l)
  ({ b with document := d }, n)

def push (b : Builder) (n : Nat) : Builder :=
  { b with stack := n :: b.stack }

def insertForeign (b : Builder) (space : Space) (name : String) (l : List Attribute) :
    Builder × Nat :=
  let (b, n) := b.create space name l
  ({ b with document := b.document.insert n (b.place b.current), stack := n :: b.stack }, n)

def insertNode (b : Builder) (name : String) (l : List Attribute) : Builder × Nat :=
  b.insertForeign .html name l

def insert (b : Builder) (name : String) (l : List Attribute) : Builder :=
  (b.insertNode name l).1

def pop (b : Builder) : Builder :=
  { b with stack := b.stack.drop 1 }

def insertVoid (b : Builder) (name : String) (l : List Attribute) : Builder :=
  (b.insert name l).pop

def insertText (b : Builder) (s : List Char) : Builder :=
  if s.isEmpty then b
  else { b with document := b.document.insertText s (b.place b.current) }

def insertComment (b : Builder) (target : Nat) : Builder :=
  let (d, n) := b.document.add .comment
  { b with document := d.insert n (b.place target) }

def popUntil (b : Builder) (p : Nat → Bool) : Builder :=
  { b with stack := (b.stack.dropWhile fun n => !p n).drop 1 }

def popUntilNamed (b : Builder) (names : List String) : Builder :=
  b.popUntil (b.isNamed names)

def popTo (b : Builder) (p : Nat → Bool) : Builder :=
  { b with stack := b.stack.dropWhile fun n => !p n }

def isForeignBarrier (b : Builder) (n : Nat) : Bool :=
  match b.document.space n with
  | .html => false
  | .math => ["mi", "mo", "mn", "ms", "mtext", "annotation-xml"].contains (b.document.name n)
  | .svg => ["foreignObject", "desc", "title"].contains (b.document.name n)

def scopeNames : List String :=
  ["applet", "caption", "html", "table", "td", "th", "marquee", "object", "template"]

def inScopeOf (b : Builder) (barrier : Nat → Bool) (p : Nat → Bool) : Bool :=
  match b.stack.find? fun n => p n || barrier n with
  | some n => p n
  | none => false

def defaultBarrier (b : Builder) (n : Nat) : Bool :=
  b.isNamed scopeNames n || b.isForeignBarrier n

def inScope (b : Builder) (names : List String) : Bool :=
  b.inScopeOf b.defaultBarrier (b.isNamed names)

def inListScope (b : Builder) (names : List String) : Bool :=
  b.inScopeOf (fun n => b.defaultBarrier n || b.isNamed ["ol", "ul"] n) (b.isNamed names)

def inButtonScope (b : Builder) (names : List String) : Bool :=
  b.inScopeOf (fun n => b.defaultBarrier n || b.isNamed ["button"] n) (b.isNamed names)

def inTableScope (b : Builder) (names : List String) : Bool :=
  b.inScopeOf (b.isNamed ["html", "table", "template"]) (b.isNamed names)

def inSelectScope (b : Builder) (names : List String) : Bool :=
  b.inScopeOf (fun n => !b.isNamed ["optgroup", "option"] n) (b.isNamed names)

def impliedNames : List String :=
  ["dd", "dt", "li", "optgroup", "option", "p", "rb", "rp", "rt", "rtc"]

def generateImplied (b : Builder) (except : String) : Builder :=
  { b with stack := b.stack.dropWhile fun n =>
      b.isNamed impliedNames n && b.document.name n != except }

def generateAllImplied (b : Builder) : Builder :=
  let names := impliedNames ++ ["caption", "colgroup", "tbody", "td", "tfoot", "th", "thead", "tr"]
  { b with stack := b.stack.dropWhile (b.isNamed names) }

def closeParagraph (b : Builder) : Builder :=
  (b.generateImplied "p").popUntilNamed ["p"]

def closeOpenParagraph (b : Builder) : Builder :=
  if b.inButtonScope ["p"] then b.closeParagraph else b

def specialNames : List String :=
  ["address", "applet", "area", "article", "aside", "base", "basefont", "bgsound", "blockquote",
   "body", "br", "button", "caption", "center", "col", "colgroup", "dd", "details", "dir", "div",
   "dl", "dt", "embed", "fieldset", "figcaption", "figure", "footer", "form", "frame", "frameset",
   "h1", "h2", "h3", "h4", "h5", "h6", "head", "header", "hgroup", "hr", "html", "iframe", "img",
   "input", "isindex", "li", "link", "listing", "main", "marquee", "menu", "meta", "nav",
   "noembed", "noframes", "noscript", "object", "ol", "p", "param", "plaintext", "pre", "script",
   "section", "select", "source", "style", "summary", "table", "tbody", "td", "template",
   "textarea", "tfoot", "th", "thead", "title", "tr", "track", "ul", "wbr", "xmp"]

def isSpecial (b : Builder) (n : Nat) : Bool :=
  b.isNamed specialNames n || b.isForeignBarrier n

def sinceMarker (l : List Formatting) : List Nat :=
  (l.takeWhile (· != .marker)).filterMap fun
    | .marker => none
    | .element n => some n

def pushFormatting (b : Builder) (n : Nat) : Builder :=
  let d := b.document
  let alike := (sinceMarker b.formatting).filter fun m =>
    d.name m == d.name n && d.space m == d.space n &&
      (d.attributesOf m).length == (d.attributesOf n).length &&
      (d.attributesOf m).all fun a => (d.attributesOf n).contains a
  let l := if alike.length ≥ 3 then
      match alike.getLast? with
      | some m => b.formatting.erase (.element m)
      | none => b.formatting
    else b.formatting
  { b with formatting := .element n :: l }

def dropFormatting (b : Builder) (n : Nat) : Builder :=
  { b with formatting := b.formatting.erase (.element n) }

def clearToMarker (b : Builder) : Builder :=
  { b with formatting := (b.formatting.dropWhile (· != .marker)).drop 1 }

def pushMarker (b : Builder) : Builder :=
  { b with formatting := .marker :: b.formatting }

def replaceFormatting (old new : Nat) (l : List Formatting) : List Formatting :=
  l.map fun f => if f = .element old then .element new else f

def closedFormatting (b : Builder) : List Nat :=
  (b.formatting.takeWhile fun
    | .marker => false
    | .element n => !b.stack.contains n).filterMap (fun
    | .marker => none
    | .element n => some n) |>.reverse

def reconstruct (b : Builder) : Builder :=
  b.closedFormatting.foldl (fun b n =>
    let (b, m) := b.insertNode (b.document.name n) (b.document.attributesOf n)
    { b with formatting := replaceFormatting n m b.formatting }) b

def removeOpen (b : Builder) (n : Nat) : Builder :=
  { b with stack := b.stack.erase n }

def closeOther (b : Builder) (name : String) : List Nat → Builder
  | [] => b
  | n :: rest =>
    if b.isNamed [name] n then
      let b := b.generateImplied name
      b.popUntil (· == n)
    else if b.isSpecial n then b
    else closeOther b name rest

inductive Bookmark where
  | replace
  | after (node : Nat)

structure Walk where
  builder : Builder
  last : Nat
  bookmark : Bookmark

def walkUp (formatting furthest : Nat) : Nat → Walk → List Nat → Walk
  | _, w, [] => w
  | count, w, n :: rest =>
    if n == formatting then w
    else
      let count := count + 1
      let b := w.builder
      let active := b.formatting.contains (.element n)
      let b := if count > 3 && active then b.dropFormatting n else b
      if count > 3 || !active then
        walkUp formatting furthest count { w with builder := b.removeOpen n } rest
      else
        let (b, m) := b.create .html (b.document.name n) (b.document.attributesOf n)
        let b := { b with
          formatting := replaceFormatting n m b.formatting
          stack := b.stack.map fun x => if x == n then m else x }
        let bookmark := if w.last == furthest then Bookmark.after m else w.bookmark
        let b := { b with document := b.document.insert w.last { parent := m } }
        walkUp formatting furthest count { builder := b, last := m, bookmark := bookmark } rest

def placeFormatting (bookmark : Bookmark) (old new : Nat) (l : List Formatting) : List Formatting :=
  match bookmark with
  | .replace => replaceFormatting old new l
  | .after m =>
    let l := l.erase (.element old)
    l.flatMap fun f => if f = .element m then [.element new, f] else [f]

def insertBelow (mark new : Nat) : List Nat → List Nat
  | [] => [new]
  | n :: rest => if n == mark then new :: n :: rest else n :: insertBelow mark new rest

/-- Closes a formatting element that blocks may have been opened inside, keeping the formatting for
what those blocks hold. The fuel bounds the number of rounds. -/
def adopt (name : String) : Nat → Builder → Builder
  | 0, b => b
  | rounds + 1, b =>
    match (sinceMarker b.formatting).find? (b.isNamed [name]) with
    | none => b.closeOther name b.stack
    | some f =>
      if !b.stack.contains f then b.dropFormatting f
      else if !b.inScopeOf b.defaultBarrier (· == f) then b
      else
        let inside := b.stack.takeWhile (· != f)
        match (inside.filter b.isSpecial).getLast? with
        | none => (b.popUntil (· == f)).dropFormatting f
        | some furthest =>
          let ancestor := (above f b.stack).getD 0
          let up := (b.stack.dropWhile (· != furthest)).drop 1
          let w := walkUp f furthest 0 { builder := b, last := furthest, bookmark := .replace } up
          let b := w.builder
          let b := { b with document := (b.document.detach w.last) }
          let b := { b with document := b.document.insert w.last (b.place ancestor) }
          let (b, clone) := b.create .html (b.document.name f) (b.document.attributesOf f)
          let d := b.document.moveChildren furthest clone
          let d := d.insert clone { parent := furthest }
          let b := { b with
            document := d
            formatting := placeFormatting w.bookmark f clone b.formatting
            stack := insertBelow furthest clone (b.stack.erase f) }
          adopt name rounds b

def closeFormatting (b : Builder) (name : String) : Builder :=
  if b.currentIs [name] && !b.formatting.contains (.element b.current) then b.pop
  else adopt name 8 b

end Builder

end Letterbox.Html
