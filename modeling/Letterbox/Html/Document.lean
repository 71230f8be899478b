import Letterbox.Html.Token

namespace Letterbox.Html

inductive Space where
  | html
  | svg
  | math
  deriving DecidableEq, Repr

inductive Content where
  | root
  | element (space : Space) (name : String) (attributes : List Attribute)
  | text (reversed : List Char)
  | comment
  deriving Repr, Inhabited

structure Node where
  content : Content
  parent : Option Nat := none
  children : List Nat := []
  deriving Repr, Inhabited

structure Document where
  nodes : Array Node := #[{ content := .root }]
  deriving Repr, Inhabited

namespace Document

def node (d : Document) (n : Nat) : Node :=
  d.nodes[n]?.getD { content := .comment }

def add (d : Document) (c : Content) : Document × Nat :=
  ({ nodes := d.nodes.push { content := c } }, d.nodes.size)

def update (d : Document) (n : Nat) (f : Node → Node) : Document :=
  { nodes := d.nodes.modify n f }

def name (d : Document) (n : Nat) : String :=
  match (d.node n).content with
  | .element _ name _ => name
  | _ => ""

def space (d : Document) (n : Nat) : Space :=
  match (d.node n).content with
  | .element s _ _ => s
  | _ => .html

def attributesOf (d : Document) (n : Nat) : List Attribute :=
  match (d.node n).content with
  | .element _ _ l => l
  | _ => []

def isNamed (d : Document) (names : List String) (n : Nat) : Bool :=
  match (d.node n).content with
  | .element .html name _ => names.contains name
  | _ => false

def detach (d : Document) (n : Nat) : Document :=
  match (d.node n).parent with
  | none => d
  | some p =>
    (d.update p fun x => { x with children := x.children.erase n }).update n
      fun x => { x with parent := none }

structure Position where
  parent : Nat
  before : Option Nat := none
  deriving DecidableEq, Repr

def insertBefore (n : Nat) (mark : Nat) : List Nat → List Nat
  | [] => [n]
  | c :: rest => if c == mark then c :: n :: rest else c :: insertBefore n mark rest

def insert (d : Document) (n : Nat) (pos : Position) : Document :=
  let d := d.detach n
  let d := d.update pos.parent fun x =>
    { x with children := match pos.before with
      | none => n :: x.children
      | some m => insertBefore n m x.children }
  d.update n fun x => { x with parent := some pos.parent }

def previous (d : Document) (pos : Position) : Option Nat :=
  let children := (d.node pos.parent).children
  match pos.before with
  | none => children.head?
  | some m => ((children.dropWhile (· != m)).drop 1).head?

def textBefore? (d : Document) (pos : Position) : Option Nat :=
  (d.previous pos).filter fun p =>
    match (d.node p).content with
    | .text _ => true
    | _ => false

def Content.grow (s : List Char) : Content → Content
  | .text t => .text (s.reverse ++ t)
  | c => c

def insertText (d : Document) (s : List Char) (pos : Position) : Document :=
  match d.textBefore? pos with
  | some p => d.update p fun x => { x with content := Content.grow s x.content }
  | none =>
    let (d, n) := d.add (.text s.reverse)
    d.insert n pos

def moveChildren (d : Document) (source target : Nat) : Document :=
  (d.node source).children.foldr (fun c d => d.insert c { parent := target }) d

end Document

end Letterbox.Html
