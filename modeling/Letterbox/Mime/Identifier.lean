import Letterbox.Mime.Token

namespace Letterbox.Mime.Identifier

structure State where
  token : Token := {}
  inside : Bool := false
  found : List (List Char) := []

def State.step (st : State) (b : UInt8) : State :=
  if b == 60 then
    { st with inside := true, token := if st.inside then st.token.skip b else {} }
  else if b == 62 then
    if st.inside && st.token.isOpen then
      { inside := false, token := {}, found := st.found ++ [st.token.text] }
    else { st with inside := false }
  else if isSpaceByte b then { st with token := st.token.skip b }
  else { st with token := st.token.push b }

def read (s : Bytes) : List (List Char) :=
  let st := s.foldl State.step {}
  if st.found.isEmpty && st.token.isOpen then [st.token.text] else st.found

end Letterbox.Mime.Identifier
