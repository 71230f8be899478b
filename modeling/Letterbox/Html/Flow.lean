import Letterbox.Html.Markup
import Letterbox.Number.Total
import Letterbox.Text.Decimal
import Letterbox.Text.Width

namespace Letterbox.Html

inductive Flow where
  | text (s : List Char)
  | group (children : List Flow)
  | link (children : List Flow)
  | struck (children : List Flow)
  | raised (children : List Flow)
  | image (alt : List Char)
  | block (children : List Flow)
  | item (children : List Flow)
  | inset (children : List Flow)
  | division (children : List Flow)
  | preformatted (children : List Flow)
  | list (items : List Flow)
  | definitions (children : List Flow)
  | term (children : List Flow)
  | definition (children : List Flow)
  | lineBreak
  | anchor
  | cell (span : Nat) (children : List Flow)
  | row (cells : List Flow)
  | rows (rows : List Flow)
  | table (rows : List Flow)
  deriving Repr, Inhabited

namespace Flow

def looksEmpty : Flow → Bool
  | .text s => Text.allBlank s
  | .image s => Text.allBlank s
  | .group l | .link l | .struck l | .raised l | .block l | .item l | .inset l | .division l
  | .preformatted l | .list l | .definitions l | .term l | .definition l => l.isEmpty
  | .lineBreak => true
  | .anchor => true
  | .cell _ _ | .row _ | .rows _ | .table _ => false

def isItem : Flow → Bool
  | .item _ => true
  | _ => false

def isDefinition : Flow → Bool
  | .term _ => true
  | .definition _ => true
  | _ => false

def isRow : Flow → Bool
  | .row _ => true
  | _ => false

def isCell : Flow → Bool
  | .cell _ _ => true
  | _ => false

def rowsOf : Flow → List Flow
  | .rows l => l
  | _ => []

def cellsOf : Flow → List Flow
  | .row l => l
  | _ => []

def spanOf : Flow → Nat
  | .cell n _ => n
  | _ => 1

def withSpan (n : Nat) : Flow → Flow
  | .cell _ l => .cell n l
  | f => f

def mapCells (f : List Flow → List Flow) : Flow → Flow
  | .row l => .row (f l)
  | x => x

def resolveZeroSpans (rows : List Flow) : List Flow :=
  let count := fun (r : Flow) => total (r.cellsOf.map fun c => max c.spanOf 1)
  let longest := (rows.map count).foldl max 0
  rows.map fun r =>
    r.mapCells fun l => l.map fun c =>
      if c.spanOf == 0 then c.withSpan (longest - count r + 1) else c

def edges (rows : List Flow) : List Nat :=
  rows.flatMap fun r =>
    (r.cellsOf.foldl (fun acc c => (acc.1 + max c.spanOf 1, (acc.1 + max c.spanOf 1) :: acc.2))
      ((0, []) : Nat × List Nat)).2

def narrowSpans (rows : List Flow) : List Flow :=
  let cuts := (edges rows).eraseDups
  let index := fun (n : Nat) => (cuts.filter (· < n)).length
  rows.map fun r => r.mapCells fun l =>
    (l.foldl (fun (acc : Nat × List Flow) c =>
      let next := acc.1 + max c.spanOf 1
      let start := if acc.1 == 0 then 0 else index acc.1 + 1
      (next, acc.2 ++ [c.withSpan (index next + 1 - start)])) (0, [])).2

def attribute? (l : List Attribute) (name : String) : Option (List Char) :=
  (l.find? fun a => a.1 == name.toList).map (·.2)

def number? (s : List Char) : Option Nat :=
  let s := match s with
    | '+' :: rest => rest
    | s => s
  if s.isEmpty || !s.all Text.isDigit then none
  else
    let n := Text.ofDigits s
    if n < 18446744073709551616 then some n else none

def hasAnchor (name : String) (l : List Attribute) : Bool :=
  (attribute? l "id").isSome || (name == "a" && (attribute? l "name").isSome)

def anchored : Flow → Flow
  | .block l => .block (.anchor :: l)
  | .item l => .item (.anchor :: l)
  | .division l => .division (.anchor :: l)
  | .preformatted l => .preformatted (.anchor :: l)
  | .group l => .group (.anchor :: l)
  | .term l => .term (.anchor :: l)
  | .definition l => .definition (.anchor :: l)
  | .cell n l => .cell n (.anchor :: l)
  | .row l => .row l
  | .rows l => .rows l
  | .table l => .table l
  | f => .group [.anchor, f]

def unlessEmpty (f : List Flow → Flow) (l : List Flow) : Option Flow :=
  if l.isEmpty then none else some (f l)

def hiddenNames : List String :=
  ["link", "meta", "hr", "script", "style", "head"]

def ofElement (name : String) (l : List Attribute) (children : List Flow) : Option Flow :=
  if hiddenNames.contains name then none
  else match name with
  | "a" =>
    if (attribute? l "href").isSome then
      if children.any fun c => !c.looksEmpty then some (.link children) else none
    else some (.group children)
  | "em" | "i" | "ins" | "strong" | "code" => some (.group children)
  | "s" | "del" => some (.struck children)
  | "sup" => some (.raised children)
  | "img" =>
    match attribute? l "alt", attribute? l "src" with
    | some alt, some src => if alt.isEmpty || src.isEmpty then none else some (.image alt)
    | _, _ => none
  | "h1" | "h2" | "h3" | "h4" => some (.inset children)
  | "p" => some (.block children)
  | "li" => some (.item children)
  | "div" => some (.division children)
  | "pre" => some (.preformatted children)
  | "br" => some .lineBreak
  | "table" =>
    let rows := narrowSpans (children.flatMap rowsOf)
    if rows.isEmpty then none else some (.table rows)
  | "thead" | "tbody" =>
    if children.isEmpty then none else some (.rows (resolveZeroSpans (children.filter isRow)))
  | "tr" => some (.row (children.filter isCell))
  | "th" | "td" => some (.cell (((attribute? l "colspan").bind number?).getD 1) children)
  | "blockquote" => some (.inset children)
  | "ul" => some (.list children)
  | "ol" => some (.list (children.filter isItem))
  | "dl" => some (.definitions (children.filter isDefinition))
  | "dt" => some (.term children)
  | "dd" => some (.definition children)
  | _ => unlessEmpty .group children

mutual

def ofMarkup : Markup → Option Flow
  | .text s => some (.text s)
  | .comment => none
  | .group children => some (.group (ofMarkups children))
  | .element space name l children =>
    let shown := ofMarkups children
    let piece := match space with
      | .html => ofElement name l shown
      | _ => unlessEmpty .group shown
    if hasAnchor name l then some ((piece.map anchored).getD .anchor) else piece

def ofMarkups : List Markup → List Flow
  | [] => []
  | m :: rest =>
    match ofMarkup m with
    | some f => f :: ofMarkups rest
    | none => ofMarkups rest

end

structure Size where
  size : Nat := 0
  least : Nat := 0
  deriving DecidableEq, Repr, Inhabited

namespace Size

def add (a b : Size) : Size :=
  { size := a.size + b.size, least := max a.least b.least }

def join (a b : Size) : Size :=
  { size := max a.size b.size, least := max a.least b.least }

end Size

def textWidth (s : List Char) : Nat :=
  let words := Text.words s
  let wide := total (words.map fun w => total (w.map Text.width))
  let lead := match s with
    | c :: _ => if Text.isBlank c then 1 else 0
    | [] => 0
  wide + (words.length - 1) + lead

def textSize (s : List Char) (more : Nat) : Size :=
  let n := textWidth s + more
  { size := n, least := min n 3 }

def spread (add : Size → Size → Size) (column span : Nat) (cell : Size) (l : List Size) :
    List Size :=
  l.mapIdx fun i x => if column ≤ i && i < column + span then add x cell else x

def columnCount (rows : List Flow) : Nat :=
  (rows.map fun r => total (r.cellsOf.map fun c => max c.spanOf 1)).foldl max 0

def replicateSizes (n : Nat) : List Size :=
  List.replicate n {}

mutual

def room : Flow → Size
  | .text s => textSize s 0
  | .image s => textSize s 2
  | .group l | .struck l | .raised l | .block l | .item l | .inset l | .division l
  | .preformatted l | .list l | .definitions l | .term l => roomOfAll l
  | .definition l => let s := roomOfAll l; { size := s.size + 2, least := s.least + 2 }
  | .link l => (roomOfAll l).add { size := 5, least := 5 }
  | .lineBreak => { size := 1, least := 1 }
  | .anchor => {}
  | .cell _ l => roomOfAll l
  | .row _ => {}
  | .rows _ => {}
  | .table body =>
    let n := columnCount body
    if n == 0 then {}
    else
      let sizes := roomOfRows body (replicateSizes n)
      { size := total (sizes.map (·.size)), least := total (sizes.map (·.least)) + n - 1 }

def roomOfAll : List Flow → Size
  | [] => {}
  | f :: rest => (room f).add (roomOfAll rest)

def roomOfRows : List Flow → List Size → List Size
  | [], sizes => sizes
  | .row cells :: rest, sizes => roomOfRows rest (roomOfCells cells 0 sizes)
  | _ :: rest, sizes => roomOfRows rest sizes

def roomOfCells : List Flow → Nat → List Size → List Size
  | [], _, sizes => sizes
  | c :: rest, column, sizes =>
    let s := room c
    let span := c.spanOf
    let share : Size := { size := s.size / span, least := s.least }
    roomOfCells rest (column + span)
      (spread (fun x y => { size := x.size + y.size, least := max x.least y.least })
        column span share sizes)

end

end Flow

end Letterbox.Html
