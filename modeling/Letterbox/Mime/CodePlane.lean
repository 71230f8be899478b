import Letterbox.Text.Utf8

namespace Letterbox.Mime

abbrev CodePlane := Array (Option Char)

namespace CodePlane

def putAll (plane : CodePlane) (place : Nat) : List Char → CodePlane
  | [] => plane
  | c :: rest => putAll (plane.setIfInBounds place (some c)) (place + 1) rest

def ofRuns (size : Nat) (runs : List (Nat × String)) : CodePlane :=
  runs.foldl (fun plane r => plane.putAll r.1 r.2.toList) (Array.replicate size none)

def char? (plane : CodePlane) (place : Nat) : Option Char :=
  (plane[place]?).bind id

end CodePlane

structure Reading where
  chars : List Char
  taken : Nat

namespace Reading

def unreadable : Char := '\uFFFD'

def one (b : UInt8) : Reading :=
  ⟨[Char.ofNat b.toNat], 0⟩

def bad (taken : Nat) : Reading :=
  ⟨[unreadable], taken⟩

def ofPair (second : UInt8) (chars : Option (List Char)) : Reading :=
  match chars with
  | some l => ⟨l, 1⟩
  | none => bad (if second < 0x80 then 0 else 1)

end Reading

def readWide (read : UInt8 → Bytes → Reading) : Bytes → List Char
  | [] => []
  | b :: rest =>
    let r := read b rest
    r.chars ++ readWide read (rest.drop r.taken)
  termination_by s => s.length
  decreasing_by simp only [List.length_drop, List.length_cons]; omega

end Letterbox.Mime
