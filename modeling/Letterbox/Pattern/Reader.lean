import Letterbox.Pattern.Bracket

namespace Letterbox.Pattern

structure Piece where
  expr : Expr
  depth : Nat := 0
  repeatable : Bool := true

structure Group where
  branches : List Piece := []
  pieces : List Piece := []

namespace Group

def push (g : Group) (p : Piece) : Group :=
  { g with pieces := p :: g.pieces }

def branch (g : Group) : Piece :=
  match g.pieces with
  | [] => ⟨.empty, 0, true⟩
  | [p] => p
  | ps => ⟨.ofList (ps.reverse.map Piece.expr), (ps.map Piece.depth).foldl max 0 + 1, true⟩

def nextBranch (g : Group) : Group :=
  { branches := g.branch :: g.branches }

def piece (g : Group) : Piece :=
  match g.branches with
  | [] => g.branch
  | _ =>
    let all := g.nextBranch.branches
    ⟨.anyOf (all.reverse.map Piece.expr), (all.map Piece.depth).foldl max 0 + 1, true⟩

def repeatLast? (g : Group) (least : Nat) (most : Option Nat) : Option Group :=
  match g.pieces with
  | [] => none
  | p :: rest =>
    if p.repeatable then
      some { g with pieces := ⟨.repeated least most p.expr, p.depth + 1, true⟩ :: rest }
    else none

end Group

structure ReadState where
  flags : Flags
  group : Group := {}
  outer : List (Flags × Group) := []
  names : List (List Char) := []

namespace ReadState

def push (st : ReadState) (p : Piece) : ReadState :=
  { st with group := st.group.push p }

def openGroup (st : ReadState) (inside : Flags) : ReadState :=
  { st with flags := inside, group := {}, outer := (st.flags, st.group) :: st.outer }

def repeated? (st : ReadState) (least : Nat) (most : Option Nat) (rest : List Char) :
    Option (ReadState × List Char) :=
  (st.group.repeatLast? least most).map fun g =>
    ({ st with group := g }, if rest.head? == some '?' then rest.drop 1 else rest)

def readGroup (st : ReadState) (s : List Char) : Option (ReadState × List Char) := do
  match st.flags.skip s with
  | '?' :: '=' :: _ => none
  | '?' :: '!' :: _ => none
  | '?' :: '<' :: '=' :: _ => none
  | '?' :: '<' :: '!' :: _ => none
  | '?' :: 'P' :: '<' :: rest => named rest
  | '?' :: '<' :: rest => named rest
  | '?' :: rest =>
    let (switches, rest) ← readSwitches st.flags [] false rest
    if !switches.closed then return (st.openGroup switches.flags, rest)
    else if switches.named then
      return ({ st.push ⟨.empty, 0, false⟩ with flags := switches.flags }, rest)
    else none
  | rest => return (st.openGroup st.flags, rest)
where
  named (s : List Char) : Option (ReadState × List Char) := do
    let (name, rest) ← readName true s
    if st.names.contains name then none
    else return ({ st.openGroup st.flags with names := name :: st.names }, rest)

def closeGroup? (st : ReadState) : Option ReadState :=
  match st.outer with
  | [] => none
  | (flags, group) :: outer =>
    let p := st.group.piece
    some { st with flags, group := group.push ⟨p.expr, p.depth + 1, true⟩, outer }

def pushLexeme (st : ReadState) : Lexeme → ReadState
  | .char c asByte =>
    if asByte && !st.flags.unicode && 128 ≤ c.toNat then st.push { expr := .byte (.single c.toNat) }
    else st.push { expr := st.flags.literal c }
  | .set s => st.push { expr := st.flags.setExpr s }
  | .look l => st.push { expr := .look l }

def step? (st : ReadState) (c : Char) (rest : List Char) : Option (ReadState × List Char) :=
  match c with
  | '(' => st.readGroup rest
  | ')' => st.closeGroup?.map fun st => (st, rest)
  | '|' => some ({ st with group := st.group.nextBranch }, rest)
  | '[' => (readSet st.flags rest).map fun r =>
    (st.push ⟨st.flags.setExpr r.1.1, r.1.2, true⟩, r.2)
  | '?' => st.repeated? 0 (some 1) rest
  | '*' => st.repeated? 0 none rest
  | '+' => st.repeated? 1 none rest
  | '\x7b' => do
    let ((least, most), rest) ← readBounds st.flags rest
    st.repeated? least most rest
  | '\\' => (readEscape st.flags rest).map fun r => (st.pushLexeme r.1, r.2)
  | '.' => some (st.push { expr := st.flags.dot }, rest)
  | '^' => some (st.push { expr := .look st.flags.lineStart }, rest)
  | '$' => some (st.push { expr := .look st.flags.lineStop }, rest)
  | c => some (st.push { expr := st.flags.literal c }, rest)

def readAll : Nat → ReadState → List Char → Option ReadState
  | 0, _, _ => none
  | fuel + 1, st, s =>
    match st.flags.skip s with
    | [] => some st
    | c :: rest => do
      let (st, rest) ← st.step? c rest
      readAll fuel st rest

end ReadState

def depthLimit : Nat := 250

/-- Reads a pattern under the given flags. It must not be nested too deeply nor take too much
memory. -/
def Expr.read? (flags : Flags) (s : List Char) : Option Expr := do
  let st ← ReadState.readAll (s.length + 1) { flags } s
  if !st.outer.isEmpty then none
  else
    let p := st.group.piece
    if depthLimit < p.depth || weightLimit < p.expr.weight then none else return p.expr

end Letterbox.Pattern
