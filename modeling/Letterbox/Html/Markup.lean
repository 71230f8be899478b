import Letterbox.Html.Rules

namespace Letterbox.Html

inductive Markup where
  | text (s : List Char)
  | element (space : Space) (name : String) (attributes : List Attribute) (children : List Markup)
  | group (children : List Markup)
  | comment
  deriving Repr, Inhabited

namespace Markup

def ofNode (d : Document) : Nat → Nat → Markup
  | 0, _ => .comment
  | fuel + 1, n =>
    let x := d.node n
    match x.content with
    | .root => .group (x.children.reverse.map (ofNode d fuel))
    | .element space name l => .element space name l (x.children.reverse.map (ofNode d fuel))
    | .text s => .text s.reverse
    | .comment => .comment

def parse (s : List Char) : Markup :=
  let d := Rules.document s
  ofNode d (d.nodes.size + 1) 0

end Markup

end Letterbox.Html
