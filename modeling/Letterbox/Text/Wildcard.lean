import Letterbox.Text.Lowercase
import Letterbox.Text.Utf8

namespace Letterbox.Text.Wildcard

inductive Item where
  | any
  | one
  | char (c : Char)
  deriving DecidableEq, Repr

def items? : List Char → Option (List Item)
  | [] => some []
  | '\\' :: c :: rest => (items? rest).map (.char c :: ·)
  | c :: rest =>
    if c == '\\' then none
    else if c == '%' then (items? rest).map (.any :: ·)
    else if c == '_' then (items? rest).map (.one :: ·)
    else (items? rest).map (.char c :: ·)

/-- A character as patterns read it: the last two code points of the first plane are no characters,
and the replacement character is read in their place. -/
def asRead (c : Char) : Char :=
  if c == '\uFFFE' || c == '\uFFFF' then '\uFFFD' else c

def sameLetter (c d : Char) : Bool :=
  asRead c.toLower == asRead d.toLower

def fits : List Item → List Char → Bool
  | [], text => text.isEmpty
  | .any :: items, [] => fits items []
  | .any :: items, c :: text => fits items (c :: text) || fits (.any :: items) text
  | .one :: _, [] => false
  | .one :: items, _ :: text => fits items text
  | .char _ :: _, [] => false
  | .char d :: items, c :: text => sameLetter c d && fits items text
  termination_by items text => items.length + text.length

def upToNul (s : List Char) : List Char :=
  s.takeWhile (· != '\x00')

def matches? (pattern text : List Char) : Bool :=
  match items? (upToNul pattern) with
  | some items => fits items (upToNul text)
  | none => false

def escape (value : List Char) : List Char :=
  value.flatMap fun c => if c == '%' || c == '_' || c == '\\' then ['\\', c] else [c]

def containing (value : List Char) : List Char :=
  '%' :: (escape value ++ ['%'])

def sizeLimit : Nat := 50000

def isTooLong (pattern : List Char) : Bool :=
  decide (sizeLimit < (encode pattern).length)

end Letterbox.Text.Wildcard
