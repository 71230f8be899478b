import Letterbox.Html.Border
import Letterbox.Html.Flow
import Letterbox.Html.Wrap

namespace Letterbox.Html

inductive Line where
  | text (s : List Char)
  | border (b : Border)
  deriving DecidableEq, Repr

def Line.chars : Line → List Char
  | .text s => s
  | .border b => b.chars

structure Page where
  width : Nat
  lines : List Line := []
  blockEnd : Bool := false
  wrap : Option Wrap := none
  struck : Nat := 0
  pre : Nat := 0

namespace Page

def flush (p : Page) : Page :=
  match p.wrap with
  | none => p
  | some w => { p with wrap := none, lines := (w.finish.map Line.text).reverse ++ p.lines }

def blankLine (p : Page) : Page :=
  let p := p.flush
  { p with lines := .text [] :: p.lines, blockEnd := false }

def startBlock (p : Page) : Page :=
  let p := p.flush
  let p := if p.lines.isEmpty then p else p.blankLine
  { p with blockEnd := false }

def endBlock (p : Page) : Page :=
  { p with blockEnd := true }

def breakLine (p : Page) : Page :=
  match p.wrap with
  | none => p.blankLine
  | some w => if w.line.isEmpty && w.word.isEmpty then p.blankLine else p.flush

def strike (s : List Char) : List Char :=
  s.flatMap fun c => if Text.width c > 0 then [c, '\u0336'] else [c]

def strikeTimes : Nat → List Char → List Char
  | 0, s => s
  | n + 1, s => strikeTimes n (strike s)

def addText (p : Page) (s : List Char) : Page :=
  if p.pre == 0 && p.blockEnd && Text.allBlank s then p
  else
    let p := if p.blockEnd then p.startBlock else p
    let w := p.wrap.getD { width := p.width }
    { p with wrap := some (w.add (p.pre > 0) (strikeTimes p.struck s)) }

def inner (p : Page) (width : Nat) : Page :=
  { width := width, struck := p.struck, pre := p.pre }

def append (p q : Page) (mark : List Char) : Page :=
  let p := p.flush
  let q := q.flush
  { p with lines := (q.lines.map fun l => match l with
      | .text s => .text (mark ++ s)
      | .border b => .text (mark ++ b.chars)) ++ p.lines }

def isEmpty (p : Page) : Bool :=
  p.lines.isEmpty && p.wrap.all fun w => w.isEmpty

def superscript (c : Char) : Char :=
  match c with
  | '0' => '⁰' | '1' => '¹' | '2' => '²' | '3' => '³' | '4' => '⁴'
  | '5' => '⁵' | '6' => '⁶' | '7' => '⁷' | '8' => '⁸' | '9' => '⁹'
  | c => c

def raisedDigits : List Flow → Option (List Char)
  | [.text s] => if s.all Text.isDigit then some (s.map superscript) else none
  | _ => none

def addBorder (p : Page) (b : Border) : Page :=
  let p := p.flush
  { p with lines := .border b :: p.lines }

def pad (n : Nat) (s : List Char) : List Char :=
  s ++ List.replicate (n - total (s.map Text.width)) ' '

def cellLines (q : Page) : List Line :=
  q.flush.lines.reverse.map fun l => match l with
    | .text s => .text (pad q.width s)
    | .border b => .border (b.stretch q.width)

structure Column where
  width : Nat
  lines : List Line
  filler : Option (List Char) := none

def mergeTop : List Column → Nat → Border → List Column × Border
  | [], _, b => ([], b)
  | c :: rest, x, b =>
    let (c, b) := match c.lines with
      | .border top :: more => ({ c with lines := more }, b.mergeBelow top x)
      | _ => (c, b)
    let r := mergeTop rest (x + c.width + 1) b
    (c :: r.1, r.2)

def mergeBottom : List Column → Nat → Border → List Column × Border
  | [], _, b => ([], b)
  | c :: rest, x, b =>
    let (c, b) := match c.lines.getLast? with
      | some (.border bottom) =>
        ({ c with lines := c.lines.dropLast, filler := some bottom.charsAbove },
          b.mergeAbove bottom x)
      | _ => (c, b)
    let r := mergeBottom rest (x + c.width + 1) b
    (c :: r.1, r.2)

def rowLine (i : Nat) : List Column → List Char
  | [] => []
  | c :: rest =>
    let piece := match c.lines[i]? with
      | some l => l.chars
      | none => c.filler.getD (List.replicate c.width ' ')
    if rest.isEmpty then piece else piece ++ '│' :: rowLine i rest

def joints : List Column → Nat → List Nat
  | [], _ => []
  | [_], _ => []
  | c :: rest, x => (x + c.width) :: joints rest (x + c.width + 1)

def appendRow (p : Page) (cells : List Page) : Page :=
  let p := p.flush
  let columns := cells.map fun q => ({ width := q.width, lines := q.cellLines } : Column)
  let full := total (columns.map (·.width)) + (columns.length - 1)
  let xs := joints columns 0
  match p.lines with
  | .border top :: above =>
    let top := xs.foldl Border.joinBelow top
    let bottom := xs.foldl Border.joinAbove (Border.ofWidth full)
    let (columns, top) := mergeTop columns 0 top
    let (columns, bottom) := mergeBottom columns 0 bottom
    let height := (columns.map (·.lines.length)).foldl max 0
    let body := (List.range height).map fun i => Line.text (rowLine i columns)
    { p with lines := .border bottom :: body.reverse ++ .border top :: above }
  | above =>
    let (columns, bottom) := mergeBottom columns 0 (Border.ofWidth full)
    let height := (columns.map (·.lines.length)).foldl max 0
    let body := (List.range height).map fun i => Line.text (rowLine i columns)
    { p with lines := .border bottom :: body.reverse ++ above }

def appendStacked (p : Page) (cells : List Page) : Page :=
  let divider := fun (p : Page) => p.addBorder (List.replicate p.width .divider)
  let p := match cells with
    | [] => p.flush
    | q :: rest => rest.foldl (fun p q => (divider p).append q []) (p.append q [])
  p.addBorder (Border.ofWidth p.width)

def columnSizes (rows : List Flow) : List Flow.Size :=
  rows.foldl (fun sizes r =>
    (r.cellsOf.foldl (fun (acc : Nat × List Flow.Size) c =>
      let s := Flow.room c
      let span := c.spanOf
      let share : Flow.Size := { size := s.size / span, least := s.least / span }
      (acc.1 + span, Flow.spread Flow.Size.join acc.1 span share acc.2)) (0, sizes)).2)
    (Flow.replicateSizes (Flow.columnCount rows))

def widest (sizes : List Flow.Size) (widths : List Nat) : Nat :=
  ((widths.zip sizes).zipIdx.foldl (fun (best : Option (Nat × Nat × Nat)) x =>
    let spare := x.1.1 - x.1.2.least
    match best with
    | none => some (spare, x.1.1, x.2)
    | some (s, w, _) =>
      if spare > s || (spare == s && x.1.1 > w) then some (spare, x.1.1, x.2) else best) none).elim
    0 (·.2.2)

def shrink (sizes : List Flow.Size) (width : Nat) : Nat → List Nat → List Nat
  | 0, widths => widths
  | fuel + 1, widths =>
    if total widths + widths.length - 1 ≤ width then widths
    else shrink sizes width fuel (widths.modify (widest sizes widths) (· - 1))

def columnWidths (sizes : List Flow.Size) (width : Nat) : List Nat :=
  let full := total (sizes.map (·.size))
  let widths := sizes.map fun s =>
    if s.size == 0 then 0 else min s.size (max (s.size * width / full) s.least)
  if widths.isEmpty then widths else shrink sizes width (total widths + widths.length) widths

mutual

def put (p : Page) : Flow → Page
  | .text s => p.addText s
  | .image s => p.addText s
  | .group l => putAll p l
  | .link l => putAll p l
  | .struck l =>
    let q := putAll { p with struck := p.struck + 1 } l
    { q with struck := p.struck }
  | .raised l =>
    match raisedDigits l with
    | some s => p.addText s
    | none => (putAll (p.addText ['^', '\x7b']) l).addText ['\x7d']
  | .block l => (putAll p.startBlock l).endBlock
  | .item l => (putAll p.startBlock l).endBlock
  | .inset l =>
    let q := putAll (p.inner p.width) l
    (p.startBlock.append q []).endBlock
  | .division l => (putAll p.flush l).flush
  | .preformatted l =>
    let q := (putAll { p.flush with pre := p.pre + 1 } l).flush
    { q with pre := p.pre }
  | .list l => putItems p.startBlock l
  | .definitions l => putAll p.startBlock l
  | .term l => putAll p.flush l
  | .definition l => p.append (putAll (p.inner (p.width - 2)) l) [' ', ' ']
  | .lineBreak => p.breakLine
  | .anchor => p
  | .cell _ l => putAll p l
  | .row l => putAll p l
  | .rows l => putAll p l
  | .table rows =>
    let sizes := columnSizes rows
    let least := total (sizes.map (·.least)) + (sizes.length - 1)
    let stacked := least > p.width || p.width == 0
    let widths := if stacked then sizes.map fun _ => p.width else columnWidths sizes p.width
    let full := if stacked then p.width
      else total widths + ((widths.filter (· > 0)).length - 1)
    let p := p.startBlock
    let p := if full == 0 then p else p.addBorder (Border.ofWidth full)
    putRows p stacked widths rows

def putAll (p : Page) : List Flow → Page
  | [] => p
  | f :: rest => putAll (put p f) rest

def putItems (p : Page) : List Flow → Page
  | [] => p
  | f :: rest => putItems (p.append (put (p.inner p.width) f) []) rest

def putRows (p : Page) (stacked : Bool) (widths : List Nat) : List Flow → Page
  | [] => p
  | .row cells :: rest =>
    let pages := putCells p stacked widths 0 cells
    let p :=
      if stacked then p.appendStacked pages
      else if pages.any fun q => !q.isEmpty then p.appendRow pages else p
    putRows p stacked widths rest
  | _ :: rest => putRows p stacked widths rest

def putCells (p : Page) (stacked : Bool) (widths : List Nat) (column : Nat) : List Flow → List Page
  | [] => []
  | c :: rest =>
    let span := c.spanOf
    let width := if stacked then widths.getD column 0 else total ((widths.drop column).take span)
    let others := putCells p stacked widths (column + span) rest
    if width == 0 then others
    else
      let width := if stacked then width else width + span - 1
      put (p.inner width) c :: others

end

def rendered (p : Page) : List (List Char) :=
  p.flush.lines.reverse.map Line.chars

end Page

end Letterbox.Html
