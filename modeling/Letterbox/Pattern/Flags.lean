import Letterbox.Pattern.Basic
import Letterbox.Pattern.Fold
import Letterbox.Pattern.Property

namespace Letterbox.Pattern

structure Flags where
  ignoreCase : Bool := false
  multiLine : Bool := false
  dotAll : Bool := false
  lazily : Bool := false
  unicode : Bool := true
  verbose : Bool := false
  anyLineEnd : Bool := false
  deriving DecidableEq, Repr, Inhabited

namespace Flags

def set? (f : Flags) (letter : Char) (on : Bool) : Option Flags :=
  match letter with
  | 'i' => some { f with ignoreCase := on }
  | 'm' => some { f with multiLine := on }
  | 's' => some { f with dotAll := on }
  | 'U' => some { f with lazily := on }
  | 'u' => some { f with unicode := on }
  | 'x' => some { f with verbose := on }
  | 'R' => some { f with anyLineEnd := on }
  | _ => none

def top (f : Flags) : Nat :=
  if f.unicode then highestChar else 255

def closed (f : Flags) (s : CharSet) : CharSet :=
  if !f.ignoreCase then s else if f.unicode then s.closeCase else s.closeCaseAscii

def meant (f : Flags) (negated : Bool) (s : CharSet) : CharSet :=
  if negated then (f.closed s).complement f.top else f.closed s

def setExpr (f : Flags) (s : CharSet) : Expr :=
  if f.unicode then .char s else .byte s

def literal (f : Flags) (c : Char) : Expr :=
  if f.unicode then .char (f.closed (.single c.toNat))
  else if c.toNat < 128 then .byte (f.closed (.single c.toNat))
  else .ofList ((String.utf8EncodeChar c).map fun b => .byte (.single b.toNat))

def dot (f : Flags) : Expr :=
  let ends := if f.anyLineEnd then [(10, 10), (13, 13)] else [(10, 10)]
  f.setExpr (CharSet.complement f.top ⟨if f.dotAll then [] else ends⟩)

def lineStart (f : Flags) : Look :=
  if !f.multiLine then .start else if f.anyLineEnd then .anyLineStart else .lineStart

def lineStop (f : Flags) : Look :=
  if !f.multiLine then .stop else if f.anyLineEnd then .anyLineStop else .lineStop

def letterSet (f : Flags) (letter : Char) : CharSet :=
  match f.unicode, letter with
  | true, 'd' => digitSet
  | true, 's' => blankSet
  | true, _ => wordSet
  | false, 'd' => ⟨[(48, 57)]⟩
  | false, 's' => ⟨[(9, 13), (32, 32)]⟩
  | false, _ => ⟨[(48, 57), (65, 90), (95, 95), (97, 122)]⟩

end Flags

end Letterbox.Pattern
