import Letterbox.Pattern.Basic
import Letterbox.Pattern.Property
import Letterbox.Text.Utf8

namespace Letterbox.Pattern

structure Subject where
  bytes : Array UInt8
  chars : Array (Option (Char × Nat))

namespace Subject

def charsOf : Bytes → List (Option (Char × Nat))
  | [] => []
  | b :: rest =>
    let r := Text.readChar b rest
    r.1.map (fun c => (c, r.2 + 1)) :: charsOf rest

def ofBytes (s : Bytes) : Subject :=
  { bytes := s.toArray, chars := (charsOf s).toArray }

def size (t : Subject) : Nat :=
  t.bytes.size

def byteAt (t : Subject) (i : Nat) : Option UInt8 :=
  t.bytes[i]?

def byteBefore (t : Subject) (i : Nat) : Option UInt8 :=
  if i == 0 then none else t.bytes[i - 1]?

def charAt (t : Subject) (i : Nat) : Option (Char × Nat) :=
  (t.chars[i]?).join

def leadOf (t : Subject) : Nat → Nat → Nat
  | 0, i => i
  | k + 1, i =>
    if 0 < i && (t.byteAt i).any Text.isTail then leadOf t k (i - 1) else i

def charBefore (t : Subject) (i : Nat) : Option Char :=
  let lead := t.leadOf 3 (i - 1)
  match t.charAt lead with
  | some (c, n) => if lead + n ≤ i then some c else none
  | none => none

inductive Side where
  | nothing
  | broken
  | word
  | other
  deriving DecidableEq, Repr

def Side.ofChar (c : Char) : Side :=
  if wordSet.contains c.toNat then .word else .other

def Side.ofByte (b : UInt8) : Side :=
  if b < 0x80 && (wordSet.contains b.toNat) then .word else .other

def sideBefore (t : Subject) (unicode : Bool) (i : Nat) : Side :=
  if i == 0 then .nothing
  else if unicode then ((t.charBefore i).map Side.ofChar).getD .broken
  else ((t.byteBefore i).map Side.ofByte).getD .nothing

def sideAfter (t : Subject) (unicode : Bool) (i : Nat) : Side :=
  if t.size ≤ i then .nothing
  else if unicode then ((t.charAt i).map fun c => Side.ofChar c.1).getD .broken
  else ((t.byteAt i).map Side.ofByte).getD .nothing

def onEdge (edge : WordEdge) (before after : Side) : Bool :=
  match edge with
  | .boundary => (before == .word) != (after == .word)
  | .inside => before != .broken && after != .broken && (before == .word) == (after == .word)
  | .start => before != .word && after == .word
  | .stop => before == .word && after != .word
  | .startHalf => before != .word && before != .broken
  | .stopHalf => after != .word && after != .broken

def holds (t : Subject) (l : Look) (i : Nat) : Bool :=
  match l with
  | .start => i == 0
  | .stop => i == t.size
  | .lineStart => i == 0 || t.byteBefore i == some 10
  | .lineStop => i == t.size || t.byteAt i == some 10
  | .anyLineStart => i == 0 || t.byteBefore i == some 10 ||
      (t.byteBefore i == some 13 && t.byteAt i != some 10)
  | .anyLineStop => i == t.size || t.byteAt i == some 13 ||
      (t.byteAt i == some 10 && t.byteBefore i != some 13)
  | .word unicode edge => onEdge edge (t.sideBefore unicode i) (t.sideAfter unicode i)

end Subject

end Letterbox.Pattern
