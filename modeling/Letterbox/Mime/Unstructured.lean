import Letterbox.Mime.EncodedWord

namespace Letterbox.Mime.Unstructured

structure State where
  token : Token := {}
  pieces : List (List Char) := []
  afterWord : Bool := true

namespace State

def flush (st : State) : State :=
  if st.token.isOpen then
    { token := {}
      pieces := st.pieces ++ (if st.pieces.isEmpty then [] else [[' ']]) ++ [st.token.text]
      afterWord := false }
  else st

def addWord (st : State) (w : List Char) : State :=
  let st := st.flush
  { st with
    pieces := st.pieces ++ (if st.afterWord then [] else [[' ']]) ++ [w]
    afterWord := true }

end State

def run : Nat → State → Bytes → State
  | 0, st, _ => st
  | _ + 1, st, [] => st.flush
  | fuel + 1, st, b :: rest =>
    if b == 10 then run fuel st.flush rest
    else if isFold b || b == 13 then run fuel { st with token := st.token.skip b } rest
    else
      let plain := fun (_ : Unit) => run fuel { st with token := st.token.push b } rest
      if b == 61 then
        match EncodedWord.read rest with
        | some (w, rest) => run fuel (st.addWord w) rest
        | none => plain ()
      else plain ()

def read (s : Bytes) : Option (List Char) :=
  let pieces := (run (s.length + 1) {} s).pieces
  if pieces.isEmpty then none else some pieces.flatten

end Letterbox.Mime.Unstructured
