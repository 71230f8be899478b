import Letterbox.Html.EntityTable
import Letterbox.Text.Blank
import Letterbox.Text.Decimal
import Letterbox.Text.Lines

namespace Letterbox.Html.Entity

open Letterbox.Text

structure Named where
  name : List Char
  chars : List Char

def ofHex (s : List Char) : Char :=
  Char.ofNat (s.foldl (fun n c => n * 16 + (hexValue? c).getD 0) 0)

def ofEntry (s : List Char) : Option Named :=
  (cut (· == '=') s).map fun (name, codes) =>
    { name := name, chars := (splitAt (· == '+') codes).map ofHex }

def table : List Named :=
  (words EntityTable.text.toList).filterMap ofEntry

def startsWith : List Char → List Char → Bool
  | [], _ => true
  | _ :: _, [] => false
  | a :: p, b :: s => a == b && startsWith p s

def longest (s : List Char) : Option Named :=
  table.foldl (fun best e =>
    if startsWith e.name s && best.all fun b : Named => b.name.length < e.name.length then some e
    else best) none

def isAlnum (c : Char) : Bool :=
  c.toNat < 128 && c.isAlphanum

def controlMeanings : List Char :=
  ("\u20ac\u0081\u201a\u0192\u201e\u2026\u2020\u2021" ++
    "\u02c6\u2030\u0160\u2039\u0152\u008d\u017d\u008f" ++
    "\u0090\u2018\u2019\u201c\u201d\u2022\u2013\u2014" ++
    "\u02dc\u2122\u0161\u203a\u0153\u009d\u017e\u0178").toList

def control (n : Nat) : Char :=
  controlMeanings.getD (n - 128) '\uFFFD'

def ofNumber (n : Nat) : Char :=
  if n == 0 || n > 0x10FFFF || (0xD800 ≤ n && n < 0xE000) then '\uFFFD'
  else if 128 ≤ n && n < 160 then control n
  else Char.ofNat n

def dropSemicolon : List Char → List Char
  | ';' :: rest => rest
  | s => s

def readNumber (base : Nat) (value : Char → Option Nat) (s : List Char) :
    Option (List Char × List Char) :=
  let ds := s.takeWhile fun c => (value c).isSome
  if ds.isEmpty then none
  else
    let n := ds.foldl (fun n c => if n > 0x10FFFF then n else n * base + (value c).getD 0) 0
    some ([ofNumber n], dropSemicolon (s.dropWhile fun c => (value c).isSome))

def decimal? (c : Char) : Option Nat :=
  if isDigit c then some (digitValue c) else none

def read (inAttribute : Bool) (s : List Char) : Option (List Char × List Char) :=
  match s with
  | '#' :: 'x' :: rest => readNumber 16 hexValue? rest
  | '#' :: 'X' :: rest => readNumber 16 hexValue? rest
  | '#' :: rest => readNumber 10 decimal? rest
  | c :: _ =>
    if !isAlnum c then none
    else match longest s with
      | none => none
      | some e =>
        let rest := s.drop e.name.length
        let closed := e.name.getLast? == some ';'
        let blocked := match rest with
          | d :: _ => d == '=' || isAlnum d
          | [] => false
        if inAttribute && !closed && blocked then none else some (e.chars, rest)
  | [] => none

end Letterbox.Html.Entity
