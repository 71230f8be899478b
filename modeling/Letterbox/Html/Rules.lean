import Letterbox.Html.Builder
import Letterbox.Text.Lowercase

namespace Letterbox.Html.Rules

open Builder

inductive Outcome where
  | done (b : Builder)
  | again (b : Builder)

def Outcome.map (f : Builder → Builder) : Outcome → Outcome
  | .done b => .done (f b)
  | .again b => .again (f b)

def openText (b : Builder) (name : String) (l : List Attribute) (mode : Mode) : Builder :=
  { b.insert name l with mode := mode, returnTo := b.stage, stage := .text }

def stageFor (b : Builder) : List Nat → Stage
  | [] => .inBody
  | n :: rest =>
    let last := rest.isEmpty
    match if b.document.space n == .html then b.document.name n else "" with
    | "select" =>
      let outer := rest.takeWhile fun m => !b.isNamed ["template"] m
      if outer.any (b.isNamed ["table"]) then .inSelectInTable else .inSelect
    | "td" | "th" => if last then .inBody else .inCell
    | "tr" => .inRow
    | "tbody" | "thead" | "tfoot" => .inTableBody
    | "caption" => .inCaption
    | "colgroup" => .inColumns
    | "table" => .inTable
    | "template" => b.templateStages.head?.getD .inBody
    | "head" => if last then .inBody else .inHead
    | "body" => .inBody
    | "frameset" => .inFrameset
    | "html" => if b.head.isNone then .beforeHead else .afterHead
    | _ => if last then .inBody else stageFor b rest

def resetStage (b : Builder) : Builder :=
  b.enter (stageFor b b.stack)

def closeTemplate (b : Builder) : Builder :=
  if b.stack.any (b.isNamed ["template"]) then
    let b := (b.generateAllImplied.popUntilNamed ["template"]).clearToMarker
    resetStage { b with templateStages := b.templateStages.drop 1 }
  else b

def openTemplate (b : Builder) (l : List Attribute) : Builder :=
  let (b, n) := b.insertNode "template" l
  let (d, contents) := b.document.add .root
  { b.pushMarker with
    document := d
    templates := (n, contents) :: b.templates
    framesetAllowed := false
    stage := .inTemplate
    templateStages := .inTemplate :: b.templateStages }

def initial (b : Builder) (t : Token) : Outcome :=
  match t with
  | .text .blank _ => .done b
  | .comment => .done (b.insertComment 0)
  | .doctype text =>
    let s := (String.ofList (Text.trim (text.map Char.toLower)))
    .done ({ b with legacy := s != "html" && s != "html system \"about:legacy-compat\"" &&
        !(s.startsWith "html public \"-//w3c//dtd html 4.01//en\"") &&
        !(s.startsWith "html public \"-//w3c//dtd xhtml 1.") &&
        !(s.startsWith "html public \"-//w3c//dtd html 4.01 transitional//en\" \"") &&
        !(s.startsWith "html public \"-//w3c//dtd html 4.01 frameset//en\" \"") }.enter .beforeHtml)
  | _ => .again ({ b with legacy := true }.enter .beforeHtml)

def openRoot (b : Builder) (l : List Attribute) : Builder :=
  let (b, n) := b.create .html "html" l
  { b with document := b.document.insert n { parent := 0 }, stack := [n], stage := .beforeHead }

def beforeHtml (b : Builder) (t : Token) : Outcome :=
  match t with
  | .doctype _ => .done b
  | .comment => .done (b.insertComment 0)
  | .text .blank _ => .done b
  | .open "html" l _ => .done (openRoot b l)
  | .close name =>
    if ["head", "body", "html", "br"].contains name then .again (openRoot b []) else .done b
  | _ => .again (openRoot b [])

def openHead (b : Builder) (l : List Attribute) : Builder :=
  let (b, n) := b.insertNode "head" l
  { b with head := some n, stage := .inHead }

def rawNames : List String :=
  ["style", "noframes"]

def headElement? (b : Builder) (t : Token) : Option Outcome :=
  match t with
  | .open name l _ =>
    if ["base", "basefont", "bgsound", "link", "meta"].contains name then
      some (.done (b.insertVoid name l))
    else if name == "title" then some (.done (openText b name l (.escapable name)))
    else if rawNames.contains name then some (.done (openText b name l (.raw name)))
    else if name == "script" then some (.done (openText b name l .script))
    else if name == "template" then some (.done (openTemplate b l))
    else none
  | .close "template" => some (.done (closeTemplate b))
  | _ => none

def blockNames : List String :=
  ["address", "article", "aside", "blockquote", "center", "details", "dialog", "dir", "div", "dl",
   "fieldset", "figcaption", "figure", "footer", "header", "hgroup", "main", "menu", "nav", "ol",
   "p", "section", "summary", "ul"]

def headingNames : List String :=
  ["h1", "h2", "h3", "h4", "h5", "h6"]

def formattingNames : List String :=
  ["b", "big", "code", "em", "font", "i", "s", "small", "strike", "strong", "tt", "u"]

def closeItem (b : Builder) (names : List String) : List Nat → Builder
  | [] => b
  | n :: rest =>
    if b.isNamed names n then
      let name := b.document.name n
      (b.generateImplied name).popUntilNamed [name]
    else if b.isSpecial n && !b.isNamed ["address", "div", "p"] n then b
    else closeItem b names rest

def noFrameset (b : Builder) : Builder :=
  { b with framesetAllowed := false }

def isHidden (l : List Attribute) : Bool :=
  l.any fun a => a.1 == "type".toList && Text.lowerAscii a.2 == "hidden".toList

def openFormatting (b : Builder) (name : String) (l : List Attribute) : Builder :=
  let (b, n) := b.insertNode name l
  b.pushFormatting n

def openLink (b : Builder) (l : List Attribute) : Builder :=
  let b := match (sinceMarker b.formatting).find? (b.isNamed ["a"]) with
    | some n => ((b.closeFormatting "a").dropFormatting n).removeOpen n
    | none => b
  openFormatting b.reconstruct "a" l

def bodyOpen (b : Builder) (name : String) (l : List Attribute) (selfClosing : Bool) : Outcome :=
  if blockNames.contains name then .done (b.closeOpenParagraph.insert name l)
  else if headingNames.contains name then
    let b := b.closeOpenParagraph
    let b := if b.currentIs headingNames then b.pop else b
    .done (b.insert name l)
  else if formattingNames.contains name then .done (openFormatting b.reconstruct name l)
  else match name with
  | "html" => .done b
  | "body" => .done (noFrameset b)
  | "frameset" =>
    match b.stack.reverse with
    | _ :: second :: _ =>
      if b.isNamed ["body"] second && b.framesetAllowed then
        let b := { b with
          document := b.document.detach second
          stack := b.stack.drop (b.stack.length - 1) }
        .done ((b.insert name l).enter .inFrameset)
      else .done b
    | _ => .done b
  | "pre" | "listing" =>
    .done { noFrameset (b.closeOpenParagraph.insert name l) with skipLineFeed := true }
  | "form" =>
    let inTemplate := b.stack.any (b.isNamed ["template"])
    if b.form.isSome && !inTemplate then .done b
    else
      let (b, n) := b.closeOpenParagraph.insertNode name l
      .done (if inTemplate then b else { b with form := some n })
  | "li" => .done ((closeItem (noFrameset b) ["li"] b.stack).closeOpenParagraph.insert name l)
  | "dd" | "dt" =>
    .done ((closeItem (noFrameset b) ["dd", "dt"] b.stack).closeOpenParagraph.insert name l)
  | "plaintext" => .done { b.closeOpenParagraph.insert name l with mode := .plain }
  | "button" =>
    let b := if b.inScope ["button"] then (b.generateImplied "").popUntilNamed ["button"] else b
    .done (noFrameset (b.reconstruct.insert name l))
  | "a" => .done (openLink b l)
  | "nobr" =>
    let b := b.reconstruct
    let b := if b.inScope ["nobr"] then (b.closeFormatting "nobr").reconstruct else b
    .done (openFormatting b name l)
  | "applet" | "marquee" | "object" =>
    .done (noFrameset (b.reconstruct.insert name l).pushMarker)
  | "table" =>
    let b := if b.legacy then b else b.closeOpenParagraph
    .done ((noFrameset (b.insert name l)).enter .inTable)
  | "area" | "br" | "embed" | "img" | "keygen" | "wbr" =>
    .done (noFrameset (b.reconstruct.insertVoid name l))
  | "image" => .done (noFrameset (b.reconstruct.insertVoid "img" l))
  | "input" =>
    let b := b.reconstruct.insertVoid name l
    .done (if isHidden l then b else noFrameset b)
  | "param" | "source" | "track" => .done (b.insertVoid name l)
  | "hr" => .done (noFrameset (b.closeOpenParagraph.insertVoid name l))
  | "textarea" =>
    .done { openText (noFrameset b) name l (.escapable name) with skipLineFeed := true }
  | "xmp" => .done (openText (noFrameset b.closeOpenParagraph.reconstruct) name l (.raw name))
  | "iframe" => .done (openText (noFrameset b) name l (.raw name))
  | "noembed" | "noscript" => .done (openText b name l (.raw name))
  | "select" =>
    let inTable := [Stage.inTable, .inCaption, .inTableBody, .inRow, .inCell].contains b.stage
    .done ((noFrameset (b.reconstruct.insert name l)).enter
      (if inTable then .inSelectInTable else .inSelect))
  | "optgroup" | "option" =>
    let b := if b.currentIs ["option"] then b.pop else b
    .done (b.reconstruct.insert name l)
  | "rb" | "rtc" =>
    let b := if b.inScope ["ruby"] then b.generateImplied "" else b
    .done (b.insert name l)
  | "rp" | "rt" =>
    let b := if b.inScope ["ruby"] then b.generateImplied "rtc" else b
    .done (b.insert name l)
  | "math" | "svg" =>
    let space := if name == "svg" then Space.svg else .math
    let b := (b.reconstruct.insertForeign space name l).1
    .done (if selfClosing then b.pop else b)
  | "caption" | "col" | "colgroup" | "frame" | "head" | "tbody" | "td" | "tfoot" | "th" | "thead"
  | "tr" => .done b
  | _ => .done (b.reconstruct.insert name l)

def closeForm (b : Builder) : Builder :=
  if b.stack.any (b.isNamed ["template"]) then
    if b.inScope ["form"] then (b.generateImplied "").popUntilNamed ["form"] else b
  else match b.form with
    | none => b
    | some n =>
      let b := { b with form := none }
      if b.inScopeOf b.defaultBarrier (· == n) then (b.generateImplied "").removeOpen n else b

def bodyClose (b : Builder) (name : String) : Outcome :=
  if name != "p" && (blockNames.contains name || ["button", "listing", "pre"].contains name) then
    .done (if b.inScope [name] then (b.generateImplied "").popUntilNamed [name] else b)
  else if headingNames.contains name then
    .done (if b.inScope headingNames then (b.generateImplied "").popUntilNamed headingNames else b)
  else if formattingNames.contains name || name == "a" || name == "nobr" then
    .done (b.closeFormatting name)
  else match name with
  | "body" => .done (if b.inScope ["body"] then b.enter .afterBody else b)
  | "html" => if b.inScope ["body"] then .again (b.enter .afterBody) else .done b
  | "form" => .done (closeForm b)
  | "p" =>
    let b := if b.inButtonScope ["p"] then b else b.insert "p" []
    .done b.closeParagraph
  | "li" =>
    .done (if b.inListScope ["li"] then (b.generateImplied "li").popUntilNamed ["li"] else b)
  | "dd" | "dt" =>
    .done (if b.inScope [name] then (b.generateImplied name).popUntilNamed [name] else b)
  | "applet" | "marquee" | "object" =>
    .done (if b.inScope [name] then
      ((b.generateImplied "").popUntilNamed [name]).clearToMarker else b)
  | "br" => .done (noFrameset (b.reconstruct.insertVoid "br" []))
  | _ => .done (b.closeOther name b.stack)

def endInTemplate (b : Builder) : Outcome :=
  if b.stack.any (b.isNamed ["template"]) then .again (closeTemplate b)
  else .done { b with stopped := true }

def inBody (b : Builder) (t : Token) : Outcome :=
  match headElement? b t with
  | some o => o
  | none =>
    match t with
    | .text .nul _ => .done b
    | .text .blank s => .done (b.reconstruct.insertText s)
    | .text .other s => .done (noFrameset (b.reconstruct.insertText s))
    | .comment => .done (b.insertComment b.current)
    | .nothing => .done b
    | .doctype _ => .done b
    | .open name l selfClosing => bodyOpen b name l selfClosing
    | .close name => bodyClose b name
    | .eof => if b.templateStages.isEmpty then .done { b with stopped := true } else endInTemplate b

def inHead (b : Builder) (t : Token) : Outcome :=
  match headElement? b t with
  | some o => o
  | none =>
    match t with
    | .text .blank s => .done (b.insertText s)
    | .comment => .done (b.insertComment b.current)
    | .doctype _ => .done b
    | .open "html" _ _ => inBody b t
    | .open "noscript" l _ => .done (openText b "noscript" l (.raw "noscript"))
    | .open "head" _ _ => .done b
    | .close "head" => .done (b.pop.enter .afterHead)
    | .close name =>
      if ["body", "html", "br"].contains name then .again (b.pop.enter .afterHead) else .done b
    | _ => .again (b.pop.enter .afterHead)

def beforeHead (b : Builder) (t : Token) : Outcome :=
  match t with
  | .text .blank _ => .done b
  | .comment => .done (b.insertComment b.current)
  | .doctype _ => .done b
  | .open "html" _ _ => inBody b t
  | .open "head" l _ => .done (openHead b l)
  | .close name =>
    if ["head", "body", "html", "br"].contains name then .again (openHead b []) else .done b
  | _ => .again (openHead b [])

def afterHead (b : Builder) (t : Token) : Outcome :=
  let openBody := fun (l : List Attribute) => (b.insert "body" l).enter .inBody
  match t with
  | .text .blank s => .done (b.insertText s)
  | .comment => .done (b.insertComment b.current)
  | .doctype _ => .done b
  | .open "html" _ _ => inBody b t
  | .open "body" l _ => .done (noFrameset (openBody l))
  | .open "frameset" l _ => .done ((b.insert "frameset" l).enter .inFrameset)
  | .open "head" _ _ => .done b
  | .close "template" => inHead b t
  | .close name =>
    if ["body", "html", "br"].contains name then .again (openBody []) else .done b
  | .open name _ _ =>
    if ["base", "basefont", "bgsound", "link", "meta", "noframes", "script", "style", "template",
        "title"].contains name then
      match b.head with
      | some n => (inHead (b.push n) t).map fun b => b.removeOpen n
      | none => .again (openBody [])
    else .again (openBody [])
  | _ => .again (openBody [])

def inText (b : Builder) (t : Token) : Outcome :=
  match t with
  | .text .nul s => .done (b.insertText (s.map fun _ => '\uFFFD'))
  | .text _ s => .done (b.insertText s)
  | .eof => .again ({ b.pop with mode := .data }.enter b.returnTo)
  | .close _ => .done ({ b.pop with mode := .data }.enter b.returnTo)
  | _ => .done b

def fostered (b : Builder) (t : Token) : Outcome :=
  (inBody { b with fostering := true } t).map fun b => { b with fostering := false }

def toTable (b : Builder) : Builder :=
  b.popTo (b.isNamed ["table", "template", "html"])

def toTableBody (b : Builder) : Builder :=
  b.popTo (b.isNamed ["tbody", "tfoot", "thead", "template", "html"])

def toRow (b : Builder) : Builder :=
  b.popTo (b.isNamed ["tr", "template", "html"])

def closeTable (b : Builder) : Builder :=
  resetStage (b.popUntilNamed ["table"])

def inTable (b : Builder) (t : Token) : Outcome :=
  match t with
  | .text _ _ =>
    if b.currentIs ["table", "tbody", "template", "tfoot", "thead", "tr"] then
      .again ({ b with tableText := [], returnTo := b.stage }.enter .inTableText)
    else fostered b t
  | .comment => .done (b.insertComment b.current)
  | .nothing => .done b
  | .doctype _ => .done b
  | .open "caption" l _ =>
    .done (((toTable b).pushMarker.insert "caption" l).enter .inCaption)
  | .open "colgroup" l _ => .done (((toTable b).insert "colgroup" l).enter .inColumns)
  | .open "col" _ _ => .again (((toTable b).insert "colgroup" []).enter .inColumns)
  | .open "tbody" l _ => .done (((toTable b).insert "tbody" l).enter .inTableBody)
  | .open "tfoot" l _ => .done (((toTable b).insert "tfoot" l).enter .inTableBody)
  | .open "thead" l _ => .done (((toTable b).insert "thead" l).enter .inTableBody)
  | .open "td" _ _ => .again (((toTable b).insert "tbody" []).enter .inTableBody)
  | .open "th" _ _ => .again (((toTable b).insert "tbody" []).enter .inTableBody)
  | .open "tr" _ _ => .again (((toTable b).insert "tbody" []).enter .inTableBody)
  | .open "table" _ _ => if b.inTableScope ["table"] then .again (closeTable b) else .done b
  | .close "table" => .done (if b.inTableScope ["table"] then closeTable b else b)
  | .close "template" => inHead b t
  | .close name =>
    if ["body", "caption", "col", "colgroup", "html", "tbody", "td", "tfoot", "th", "thead",
        "tr"].contains name then .done b
    else fostered b t
  | .open "input" l _ => if isHidden l then .done (b.insertVoid "input" l) else fostered b t
  | .open "form" l _ =>
    if b.form.isSome || b.stack.any (b.isNamed ["template"]) then .done b
    else
      let (b, n) := b.insertNode "form" l
      .done { b.pop with form := some n }
  | .open name _ _ =>
    if ["style", "script", "template"].contains name then inHead b t else fostered b t
  | .eof => inBody b t

def flushTableText (b : Builder) : Builder :=
  let b' := { b with tableText := [] }
  if b.tableText.all fun x => x.1 == .blank then
    b.tableText.foldl (fun b x => b.insertText x.2) b'
  else
    b.tableText.foldl (fun b x =>
      match fostered b (.text x.1 x.2) with
      | .done b => b
      | .again b => b) b'

def inTableText (b : Builder) (t : Token) : Outcome :=
  match t with
  | .text .nul _ => .done b
  | .text kind s => .done { b with tableText := b.tableText ++ [(kind, s)] }
  | .nothing => .done b
  | _ => .again ((flushTableText b).enter b.returnTo)

def closeCaption (b : Builder) : Builder :=
  (((b.generateImplied "").popUntilNamed ["caption"]).clearToMarker).enter .inTable

def inCaption (b : Builder) (t : Token) : Outcome :=
  let close := fun (again : Bool) =>
    if b.inTableScope ["caption"] then
      if again then Outcome.again (closeCaption b) else .done (closeCaption b)
    else .done b
  match t with
  | .close "caption" => close false
  | .close "table" => close true
  | .open name _ _ =>
    if ["caption", "col", "colgroup", "tbody", "td", "tfoot", "th", "thead", "tr"].contains name
    then close true else inBody b t
  | .close name =>
    if ["body", "col", "colgroup", "html", "tbody", "td", "tfoot", "th", "thead", "tr"].contains
      name then .done b else inBody b t
  | _ => inBody b t

def inColumns (b : Builder) (t : Token) : Outcome :=
  let leave := fun (_ : Unit) =>
    if b.currentIs ["colgroup"] then Outcome.again (b.pop.enter .inTable) else .done b
  match t with
  | .text .blank s => .done (b.insertText s)
  | .comment => .done (b.insertComment b.current)
  | .nothing => .done b
  | .doctype _ => .done b
  | .open "html" _ _ => inBody b t
  | .open "col" l _ => .done (b.insertVoid "col" l)
  | .close "colgroup" => .done (if b.currentIs ["colgroup"] then b.pop.enter .inTable else b)
  | .close "col" => .done b
  | .open "template" _ _ => inHead b t
  | .close "template" => inHead b t
  | .eof => inBody b t
  | _ => leave ()

def inTableBody (b : Builder) (t : Token) : Outcome :=
  let leave := fun (_ : Unit) =>
    if b.inTableScope ["tbody", "thead", "tfoot"] then
      Outcome.again ((toTableBody b).pop.enter .inTable)
    else .done b
  match t with
  | .open "tr" l _ => .done (((toTableBody b).insert "tr" l).enter .inRow)
  | .open "th" _ _ => .again (((toTableBody b).insert "tr" []).enter .inRow)
  | .open "td" _ _ => .again (((toTableBody b).insert "tr" []).enter .inRow)
  | .close "table" => leave ()
  | .open name _ _ =>
    if ["caption", "col", "colgroup", "tbody", "tfoot", "thead"].contains name then leave ()
    else inTable b t
  | .close name =>
    if ["tbody", "tfoot", "thead"].contains name then
      .done (if b.inTableScope [name] then (toTableBody b).pop.enter .inTable else b)
    else if ["body", "caption", "col", "colgroup", "html", "td", "th", "tr"].contains name then
      .done b
    else inTable b t
  | _ => inTable b t

def inRow (b : Builder) (t : Token) : Outcome :=
  let openCell := fun (name : String) (l : List Attribute) =>
    Outcome.done ((((toRow b).insert name l).enter .inCell).pushMarker)
  let leave := fun (_ : Unit) =>
    if b.inTableScope ["tr"] then Outcome.again ((toRow b).pop.enter .inTableBody) else .done b
  match t with
  | .open "th" l _ => openCell "th" l
  | .open "td" l _ => openCell "td" l
  | .close "tr" => .done (if b.inTableScope ["tr"] then (toRow b).pop.enter .inTableBody else b)
  | .close "table" => leave ()
  | .open name _ _ =>
    if ["caption", "col", "colgroup", "tbody", "tfoot", "thead", "tr"].contains name then leave ()
    else inTable b t
  | .close name =>
    if ["tbody", "tfoot", "thead"].contains name then
      if b.inTableScope [name] then leave () else .done b
    else if ["body", "caption", "col", "colgroup", "html", "td", "th"].contains name then .done b
    else inTable b t
  | _ => inTable b t

def closeCell (b : Builder) : Builder :=
  (((b.generateImplied "").popUntilNamed ["td", "th"]).clearToMarker).enter .inRow

def inCell (b : Builder) (t : Token) : Outcome :=
  match t with
  | .open name _ _ =>
    if ["caption", "col", "colgroup", "tbody", "td", "tfoot", "th", "thead", "tr"].contains name
    then if b.inTableScope ["td", "th"] then .again (closeCell b) else .done b
    else inBody b t
  | .close name =>
    if name == "td" || name == "th" then
      .done (if b.inTableScope [name] then
        (((b.generateImplied "").popUntilNamed [name]).clearToMarker).enter .inRow else b)
    else if ["body", "caption", "col", "colgroup", "html"].contains name then .done b
    else if ["table", "tbody", "tfoot", "thead", "tr"].contains name then
      if b.inTableScope [name] then .again (closeCell b) else .done b
    else inBody b t
  | _ => inBody b t

def closeSelect (b : Builder) : Builder :=
  resetStage (b.popUntilNamed ["select"])

def inSelect (b : Builder) (t : Token) : Outcome :=
  match t with
  | .text .nul _ => .done b
  | .text _ s => .done (b.insertText s)
  | .comment => .done (b.insertComment b.current)
  | .nothing => .done b
  | .doctype _ => .done b
  | .open "html" _ _ => inBody b t
  | .open "option" l _ =>
    .done ((if b.currentIs ["option"] then b.pop else b).insert "option" l)
  | .open "optgroup" l _ =>
    let b := if b.currentIs ["option"] then b.pop else b
    let b := if b.currentIs ["optgroup"] then b.pop else b
    .done (b.insert "optgroup" l)
  | .open "hr" l _ =>
    let b := if b.currentIs ["option"] then b.pop else b
    let b := if b.currentIs ["optgroup"] then b.pop else b
    .done (b.insertVoid "hr" l)
  | .close "optgroup" =>
    let b := if b.currentIs ["option"] &&
        (b.stack[1]?.any (b.isNamed ["optgroup"])) then b.pop else b
    .done (if b.currentIs ["optgroup"] then b.pop else b)
  | .close "option" => .done (if b.currentIs ["option"] then b.pop else b)
  | .close "select" => .done (if b.inSelectScope ["select"] then closeSelect b else b)
  | .open "select" _ _ => .done (if b.inSelectScope ["select"] then closeSelect b else b)
  | .close "template" => inHead b t
  | .open name _ _ =>
    if ["input", "keygen", "textarea"].contains name then
      if b.inSelectScope ["select"] then .again (closeSelect b) else .done b
    else if name == "script" || name == "template" then inHead b t
    else .done b
  | .close _ => .done b
  | .eof => inBody b t

def inSelectInTable (b : Builder) (t : Token) : Outcome :=
  let names := ["caption", "table", "tbody", "tfoot", "thead", "tr", "td", "th"]
  match t with
  | .open name _ _ =>
    if names.contains name then .again (resetStage (b.popUntilNamed ["select"])) else inSelect b t
  | .close name =>
    if names.contains name then
      if b.inTableScope [name] then .again (resetStage (b.popUntilNamed ["select"])) else .done b
    else inSelect b t
  | _ => inSelect b t

def inTemplate (b : Builder) (t : Token) : Outcome :=
  let switch := fun (s : Stage) =>
    Outcome.again ({ b with templateStages := s :: b.templateStages.drop 1 }.enter s)
  match t with
  | .text _ _ => inBody b t
  | .comment => inBody b t
  | .nothing => .done b
  | .doctype _ => inBody b t
  | .close "template" => inHead b t
  | .close _ => .done b
  | .eof =>
    if b.stack.any (b.isNamed ["template"]) then .again (closeTemplate b)
    else .done { b with stopped := true }
  | .open name _ _ =>
    if ["base", "basefont", "bgsound", "link", "meta", "noframes", "script", "style", "template",
        "title"].contains name then inHead b t
    else if ["caption", "colgroup", "tbody", "tfoot", "thead"].contains name then switch .inTable
    else if name == "col" then switch .inColumns
    else if name == "tr" then switch .inTableBody
    else if name == "td" || name == "th" then switch .inRow
    else switch .inBody

def afterBody (b : Builder) (t : Token) : Outcome :=
  match t with
  | .text .blank _ => inBody b t
  | .comment => .done (b.insertComment (b.stack.getLast?.getD 0))
  | .doctype _ => .done b
  | .nothing => .done b
  | .open "html" _ _ => inBody b t
  | .close "html" => .done (b.enter .afterAfterBody)
  | .eof => .done { b with stopped := true }
  | _ => .again (b.enter .inBody)

def afterAfterBody (b : Builder) (t : Token) : Outcome :=
  match t with
  | .text .blank _ => inBody b t
  | .comment => .done (b.insertComment 0)
  | .doctype _ => inBody b t
  | .nothing => .done b
  | .open "html" _ _ => inBody b t
  | .eof => .done { b with stopped := true }
  | _ => .again (b.enter .inBody)

def inFrameset (b : Builder) (t : Token) : Outcome :=
  match t with
  | .text .blank s => .done (b.insertText s)
  | .comment => .done (b.insertComment b.current)
  | .open "html" _ _ => inBody b t
  | .open "frameset" l _ => .done (b.insert "frameset" l)
  | .close "frameset" =>
    if b.stack.length ≤ 1 then .done b
    else
      let b := b.pop
      .done (if b.currentIs ["frameset"] then b else b.enter .afterFrameset)
  | .open "frame" l _ => .done (b.insertVoid "frame" l)
  | .open "noframes" _ _ => inHead b t
  | .eof => .done { b with stopped := true }
  | _ => .done b

def afterFrameset (b : Builder) (t : Token) : Outcome :=
  match t with
  | .text .blank s => .done (b.insertText s)
  | .comment => .done (b.insertComment b.current)
  | .open "html" _ _ => inBody b t
  | .close "html" => .done (b.enter .afterAfterFrameset)
  | .open "noframes" _ _ => inHead b t
  | .eof => .done { b with stopped := true }
  | _ => .done b

def afterAfterFrameset (b : Builder) (t : Token) : Outcome :=
  match t with
  | .comment => .done (b.insertComment 0)
  | .text .blank _ => inBody b t
  | .open "html" _ _ => inBody b t
  | .open "noframes" _ _ => inHead b t
  | .eof => .done { b with stopped := true }
  | _ => .done b

def byStage (b : Builder) (t : Token) : Outcome :=
  match b.stage with
  | .initial => initial b t
  | .beforeHtml => beforeHtml b t
  | .beforeHead => beforeHead b t
  | .inHead => inHead b t
  | .inHeadNoscript => inHead b t
  | .afterHead => afterHead b t
  | .inBody => inBody b t
  | .text => inText b t
  | .inTable => inTable b t
  | .inTableText => inTableText b t
  | .inCaption => inCaption b t
  | .inColumns => inColumns b t
  | .inTableBody => inTableBody b t
  | .inRow => inRow b t
  | .inCell => inCell b t
  | .inSelect => inSelect b t
  | .inSelectInTable => inSelectInTable b t
  | .inTemplate => inTemplate b t
  | .afterBody => afterBody b t
  | .inFrameset => inFrameset b t
  | .afterFrameset => afterFrameset b t
  | .afterAfterBody => afterAfterBody b t
  | .afterAfterFrameset => afterAfterFrameset b t

def isTextPoint (b : Builder) (n : Nat) : Bool :=
  b.document.space n == .math && ["mi", "mo", "mn", "ms", "mtext"].contains (b.document.name n)

def isHtmlPoint (b : Builder) (n : Nat) : Bool :=
  match b.document.space n with
  | .html => false
  | .svg => ["foreignObject", "desc", "title"].contains (b.document.name n)
  | .math => b.document.name n == "annotation-xml" &&
    (b.document.attributesOf n).any fun a => a.1 == "encoding".toList &&
      ["text/html", "application/xhtml+xml"].contains (String.ofList (Text.lowerAscii a.2))

def isForeign (b : Builder) (t : Token) : Bool :=
  let n := b.current
  if b.stack.isEmpty || b.document.space n == .html then false
  else match t with
    | .eof => false
    | .text _ _ => !(isTextPoint b n || isHtmlPoint b n)
    | .open name _ _ =>
      !((isTextPoint b n && name != "mglyph" && name != "malignmark") ||
        (b.document.space n == .math && b.document.name n == "annotation-xml" && name == "svg") ||
        isHtmlPoint b n)
    | _ => true

def breakoutNames : List String :=
  ["b", "big", "blockquote", "body", "br", "center", "code", "dd", "div", "dl", "dt", "em", "embed",
   "h1", "h2", "h3", "h4", "h5", "h6", "head", "hr", "i", "img", "li", "listing", "menu", "meta",
   "nobr", "ol", "p", "pre", "ruby", "s", "small", "span", "strong", "strike", "sub", "sup",
   "table", "tt", "u", "ul", "var"]

def leaveForeign (b : Builder) : Builder :=
  b.popTo fun n => b.document.space n == .html || isTextPoint b n || isHtmlPoint b n

def closeForeign (b : Builder) (name : String) : List Nat → Outcome
  | [] => .done b
  | n :: rest =>
    if b.document.space n == .html then byStage b (.close name)
    else if (b.document.name n).toLower == name then .done (b.popUntil (· == n))
    else closeForeign b name rest

def foreign (b : Builder) (t : Token) : Outcome :=
  match t with
  | .text .nul s => .done (b.insertText (s.map fun _ => '\uFFFD'))
  | .text .blank s => .done (b.insertText s)
  | .text .other s => .done (noFrameset (b.insertText s))
  | .comment => .done (b.insertComment b.current)
  | .open name l selfClosing =>
    let isFont := name == "font" && l.any fun a =>
      ["color", "face", "size"].contains (String.ofList a.1)
    if breakoutNames.contains name || isFont then .again (leaveForeign b)
    else
      let name := if name == "foreignobject" then "foreignObject" else name
      let b := (b.insertForeign (b.document.space b.current) name l).1
      .done (if selfClosing then b.pop else b)
  | .close name =>
    if name == "br" || name == "p" then .again (leaveForeign b)
    else closeForeign b name b.stack
  | _ => .done b

def apply (b : Builder) (t : Token) : Outcome :=
  if isForeign b t then foreign b t else byStage b t

def process : Nat → Builder → Token → Builder
  | 0, b, _ => b
  | fuel + 1, b, t =>
    match apply b t with
    | .done b => b
    | .again b => process fuel b t

def dropLineFeed (t : Token) : Option Token :=
  match t with
  | .text .blank ('\n' :: rest) => if rest.isEmpty then none else some (.text .blank rest)
  | .text kind ('\n' :: rest) => some (.text kind rest)
  | t => some t

def feed (b : Builder) (t : Token) : Builder :=
  match t with
  | .nothing => b
  | t =>
    let fuel := 8 * (b.stack.length + b.templateStages.length) + 32
    if b.skipLineFeed then
      match dropLineFeed t with
      | none => { b with skipLineFeed := false }
      | some t => process fuel { b with skipLineFeed := false } t
    else process fuel b t

def inForeign (b : Builder) : Bool :=
  !b.stack.isEmpty && b.document.space b.current != .html

def run : Nat → Builder → List Char → Builder
  | 0, b, _ => b
  | fuel + 1, b, s =>
    let (t, rest) := Token.next b.mode (inForeign b) s
    let b := feed b t
    if b.stopped then b else run fuel b rest

def dropMark : List Char → List Char
  | c :: rest => if c.toNat == 0xFEFF then rest else c :: rest
  | [] => []

def document (s : List Char) : Document :=
  let s := Token.normalize (dropMark s)
  (run (2 * s.length + 64) {} s).document

end Letterbox.Html.Rules
