import Letterbox.Pattern.CategoryTable
import Letterbox.Pattern.CharSet
import Letterbox.Pattern.PropertyTable
import Letterbox.Pattern.ScriptTable
import Letterbox.Text.Blank
import Letterbox.Text.Decimal
import Letterbox.Text.Lines

namespace Letterbox.Pattern

open Text

def hexNumber (s : List Char) : Nat :=
  s.foldl (fun n c => n * 16 + (hexValue? c).getD 0) 0

def tableRange (s : List Char) : Nat × Nat :=
  match splitAt (· == '-') s with
  | [a, b] => (hexNumber a, hexNumber b)
  | _ => (hexNumber s, hexNumber s)

def tableSet (lines : List String) : CharSet :=
  CharSet.ofRanges (lines.flatMap fun l => (splitAt (· == ' ') l.toList).map tableRange)

def lowestChar : Nat := 0

def highestChar : Nat := 0x10FFFF

def allChars : CharSet := ⟨[(lowestChar, highestChar)]⟩

def looseName (s : List Char) : List Char :=
  let lowered := s.map Char.toLower
  let bare := if lowered.take 2 == ['i', 's'] then lowered.drop 2 else lowered
  let kept := bare.filter fun c => c != ' ' && c != '_' && c != '-' && decide (c.toNat < 128)
  if lowered.take 2 == ['i', 's'] && kept == ['c'] then ['i', 's', 'c'] else kept

def isNamed (name : List Char) (entry : List String × List String) : Bool :=
  entry.1.any fun n => looseName n.toList == name

def lookup? (table : List (List String × List String)) (name : List Char) : Option CharSet :=
  (table.find? (isNamed name)).map fun entry => tableSet entry.2

def categoryGroups : List (List String × Char) := [
  (["L", "Letter"], 'L'), (["M", "Mark", "Combining_Mark"], 'M'), (["N", "Number"], 'N'),
  (["P", "Punctuation", "Punct"], 'P'), (["S", "Symbol"], 'S'), (["Z", "Separator"], 'Z')]

def categoriesWhere (p : List Char → Bool) : CharSet :=
  tableSet ((categoryTable.filter fun entry =>
    match entry.1 with
    | short :: _ => p short.toList
    | [] => false).flatMap (·.2))

def assigned : CharSet :=
  categoriesWhere fun _ => true

def category? (name : List Char) : Option CharSet :=
  if name == "any".toList then some allChars
  else if name == "ascii".toList then some ⟨[(0, 127)]⟩
  else if name == "assigned".toList then some assigned
  else if name == "cn".toList || name == "unassigned".toList then
    some (assigned.complement highestChar)
  else if name == "c".toList || name == "other".toList then
    some ((categoriesWhere fun short => short.head? != some 'C').complement highestChar)
  else if name == "lc".toList || name == "casedletter".toList then
    some (categoriesWhere fun short =>
      short == ['L', 'u'] || short == ['L', 'l'] || short == ['L', 't'])
  else match categoryGroups.find? (fun g => g.1.any fun n => looseName n.toList == name) with
    | some g => some (categoriesWhere fun short => short.head? == some g.2)
    | none => lookup? categoryTable name

def namedSet? (name : List Char) : Option CharSet :=
  let n := looseName name
  (lookup? propertyTable n <|> category? n) <|> lookup? scriptTable n

def valueSet? (property value : List Char) : Option CharSet :=
  let p := looseName property
  let v := looseName value
  if p == "gc".toList || p == "generalcategory".toList then category? v
  else if p == "sc".toList || p == "script".toList || p == "scx".toList ||
      p == "scriptextensions".toList then lookup? scriptTable v
  else none

def digitSet : CharSet :=
  categoriesWhere fun short => short == ['N', 'd']

def blankSet : CharSet := ⟨[(9, 13), (0x20, 0x20), (0x85, 0x85), (0xA0, 0xA0), (0x1680, 0x1680),
  (0x2000, 0x200A), (0x2028, 0x2029), (0x202F, 0x202F), (0x205F, 0x205F), (0x3000, 0x3000)]⟩

def alphabeticSet : CharSet :=
  (lookup? propertyTable "alphabetic".toList).getD CharSet.empty

def alphanumericSet : CharSet :=
  alphabeticSet.union (categoriesWhere fun short => short.head? == some 'N')

def wordSet : CharSet :=
  (alphabeticSet.union (categoriesWhere fun short =>
    short.head? == some 'M' || short == ['N', 'd'] || short == ['P', 'c'])).union
    ⟨[(0x200C, 0x200D)]⟩

end Letterbox.Pattern
