namespace Letterbox.Text

def consHead {α : Type} (a : α) : List (List α) → List (List α)
  | [] => [[a]]
  | w :: ws => (a :: w) :: ws

def splitAt {α : Type} (p : α → Bool) : List α → List (List α)
  | [] => [[]]
  | a :: rest => if p a then [] :: splitAt p rest else consHead a (splitAt p rest)

def dropReturn (s : List Char) : List Char :=
  if s.getLast? == some '\r' then s.dropLast else s

def endLines : List (List Char) → List (List Char)
  | [] => []
  | [last] => if last.isEmpty then [] else [last]
  | line :: rest => dropReturn line :: endLines rest

def lines (s : List Char) : List (List Char) :=
  endLines (splitAt (· == '\n') s)

def cut {α : Type} (p : α → Bool) : List α → Option (List α × List α)
  | [] => none
  | a :: rest => if p a then some ([], rest) else (cut p rest).map fun r => (a :: r.1, r.2)

end Letterbox.Text
