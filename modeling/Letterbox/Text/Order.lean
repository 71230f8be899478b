namespace Letterbox.Text

def before : List Char → List Char → Bool
  | [], _ => true
  | _ :: _, [] => false
  | c :: s, d :: t => c.toNat < d.toNat || (c == d && before s t)

def sortBy {α : Type} (key : α → List Char) (l : List α) : List α :=
  l.mergeSort fun a b => before (key a) (key b)

end Letterbox.Text
