import Letterbox.Text.Blank
import Letterbox.Text.Width

namespace Letterbox.Html

structure Wrap where
  width : Nat
  lines : List (List Char) := []
  line : List Char := []
  lineWidth : Nat := 0
  word : List Char := []
  wordWidth : Nat := 0
  spaces : Nat := 0
  deriving DecidableEq, Repr

namespace Wrap

def isEmpty (w : Wrap) : Bool :=
  w.lines.isEmpty && w.line.isEmpty && w.word.isEmpty

def endLine (w : Wrap) : Wrap :=
  { w with lines := w.line.reverse :: w.lines, line := [], lineWidth := 0 }

def endFilledLine (w : Wrap) : Wrap :=
  if w.line.isEmpty then w else w.endLine

def pushChar (w : Wrap) (c : Char) : Wrap :=
  let n := Text.width c
  let w := if w.lineWidth + n > w.width && !w.line.isEmpty then w.endLine else w
  { w with line := c :: w.line, lineWidth := w.lineWidth + n }

def pushChars (w : Wrap) (s : List Char) : Wrap :=
  s.foldl pushChar w

def endWord (pre : Bool) (w : Wrap) : Wrap :=
  if w.word.isEmpty then w
  else
    let word := w.word.reverse
    let spaces := List.replicate w.spaces ' '
    let fits := w.lineWidth + w.spaces + w.wordWidth ≤ w.width
    let w' := { w with word := [], wordWidth := 0, spaces := 0 }
    if fits || pre then w'.pushChars (spaces ++ word) else w'.endFilledLine.pushChars word

def addChar (pre : Bool) (w : Wrap) (c : Char) : Wrap :=
  if Text.isBlank c then
    let w := w.endWord pre
    if pre then
      if c == '\n' then { w.endLine with spaces := 0 }
      else
        let column := w.lineWidth + w.spaces
        let n := if c == '\t' then 8 - column % 8 else 1
        if column + n > w.width then { w.endLine with spaces := 0 }
        else { w with spaces := w.spaces + n }
    else if !w.line.isEmpty && w.spaces == 0 then { w with spaces := 1 }
    else w
  else match Text.width? c with
    | some n => { w with word := c :: w.word, wordWidth := w.wordWidth + n }
    | none => w

def add (pre : Bool) (w : Wrap) (s : List Char) : Wrap :=
  s.foldl (addChar pre) w

def finish (w : Wrap) : List (List Char) :=
  ((w.endWord false).endFilledLine).lines.reverse

end Wrap

end Letterbox.Html
