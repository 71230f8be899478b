import Letterbox.Mime.ChineseTable
import Letterbox.Mime.CodePlane
import Letterbox.Mime.JapaneseTable
import Letterbox.Mime.KoreanTable

namespace Letterbox.Mime.EastAsian

def japanese : CodePlane := .ofRuns 11280 JapaneseTable.first

def supplement : CodePlane := .ofRuns 8836 JapaneseTable.second

def simplified : CodePlane := .ofRuns 23940 ChineseTable.simplified

def traditional : CodePlane := .ofRuns 19782 ChineseTable.traditional

def korean : CodePlane := .ofRuns 23940 KoreanTable.unified

def isWithin (low high b : UInt8) : Bool :=
  low ≤ b && b ≤ high

def halfKana (b : UInt8) : Char :=
  Char.ofNat (0xFF61 + (b.toNat - 0xA1))

def placeOf (firstRow rowLength low gap skipped : Nat) (a b : UInt8) : Nat :=
  (a.toNat - firstRow) * rowLength + (b.toNat - (if b.toNat < gap then low else skipped))

def shiftJisPair (a b : UInt8) : Option (List Char) :=
  if isWithin 0x40 0x7E b || isWithin 0x80 0xFC b then
    let place := placeOf (if a < 0xA0 then 0x81 else 0xC1) 188 0x40 0x7F 0x41 a b
    if 8836 ≤ place && place ≤ 10715 then some [Char.ofNat (0xE000 + (place - 8836))]
    else (japanese.char? place).map fun c => [c]
  else none

def readShiftJis (a : UInt8) (rest : Bytes) : Reading :=
  if a ≤ 0x80 then .one a
  else if isWithin 0xA1 0xDF a then ⟨[halfKana a], 0⟩
  else if isWithin 0x81 0x9F a || isWithin 0xE0 0xFC a then
    match rest with
    | b :: _ => .ofPair b (shiftJisPair a b)
    | [] => .bad 0
  else .bad 0

def eucPair (plane : CodePlane) (a b : UInt8) : Option (List Char) :=
  if isWithin 0xA1 0xFE a && isWithin 0xA1 0xFE b then
    (plane.char? ((a.toNat - 0xA1) * 94 + (b.toNat - 0xA1))).map fun c => [c]
  else none

def readEucJp (a : UInt8) (rest : Bytes) : Reading :=
  if a < 0x80 then .one a
  else if a == 0x8E || a == 0x8F || isWithin 0xA1 0xFE a then
    match rest with
    | b :: more =>
      if a == 0x8E then .ofPair b (if isWithin 0xA1 0xDF b then some [halfKana b] else none)
      else if a == 0x8F && isWithin 0xA1 0xFE b then
        match more with
        | c :: _ =>
          match eucPair supplement b c with
          | some l => ⟨l, 2⟩
          | none => .bad (if c < 0x80 then 1 else 2)
        | [] => .bad 1
      else .ofPair b (eucPair japanese a b)
    | [] => .bad 0
  else .bad 0

def privateUse? (place : Nat) : Option Char :=
  (ChineseTable.privateUse.find? fun r => r.1 ≤ place && place < r.1 + r.2.1).map fun r =>
    Char.ofNat (r.2.2 + (place - r.1))

def gbPair (a b : UInt8) : Option (List Char) :=
  if isWithin 0x40 0x7E b || isWithin 0x80 0xFE b then
    let place := placeOf 0x81 190 0x40 0x7F 0x41 a b
    ((simplified.char? place).or (privateUse? place)).map fun c => [c]
  else none

def fourByte? (code : Nat) : Option Char :=
  if 189000 ≤ code then
    if code ≤ 1237575 then some (Char.ofNat (0x10000 + (code - 189000))) else none
  else if 39419 < code then none
  else
    (ChineseTable.fourByteRuns.reverse.find? fun r => r.1 ≤ code).map fun r =>
      Char.ofNat (r.2 + (code - r.1))

def readFour (a b c d : UInt8) : Reading :=
  let code := (((a.toNat - 0x81) * 10 + (b.toNat - 0x30)) * 126 + (c.toNat - 0x81)) * 10 +
    (d.toNat - 0x30)
  match fourByte? code with
  | some ch => ⟨[ch], 3⟩
  | none => .bad 3

def readGb (a : UInt8) (rest : Bytes) : Reading :=
  if a < 0x80 then .one a
  else if a == 0x80 then ⟨['€'], 0⟩
  else if a == 0xFF then .bad 0
  else match rest with
    | [] => .bad 0
    | b :: more =>
      if isWithin 0x30 0x39 b then
        match more with
        | [] => .bad 1
        | c :: more =>
          if isWithin 0x81 0xFE c then
            match more with
            | [] => .bad 2
            | d :: _ => if isWithin 0x30 0x39 d then readFour a b c d else .bad 0
          else .bad 0
      else .ofPair b (gbPair a b)

def accented? (place : Nat) : Option (List Char) :=
  if place == 1133 then some ['Ê', '\u0304']
  else if place == 1135 then some ['Ê', '\u030c']
  else if place == 1164 then some ['ê', '\u0304']
  else if place == 1166 then some ['ê', '\u030c']
  else none

def big5Pair (a b : UInt8) : Option (List Char) :=
  if isWithin 0x40 0x7E b || isWithin 0xA1 0xFE b then
    let place := placeOf 0x81 157 0x40 0x7F 0x62 a b
    (accented? place).or ((traditional.char? place).map fun c => [c])
  else none

def readPaired (pair : UInt8 → UInt8 → Option (List Char)) (a : UInt8) (rest : Bytes) : Reading :=
  if a < 0x80 then .one a
  else if isWithin 0x81 0xFE a then
    match rest with
    | b :: _ => .ofPair b (pair a b)
    | [] => .bad 0
  else .bad 0

def eucKrPair (a b : UInt8) : Option (List Char) :=
  if isWithin 0x41 0xFE b then
    (korean.char? ((a.toNat - 0x81) * 190 + (b.toNat - 0x41))).map fun c => [c]
  else none

inductive Shift where
  | ascii
  | roman
  | katakana
  | twoByte
  deriving DecidableEq, Repr

def shiftOf? (a b : UInt8) : Option Shift :=
  if a == 0x28 && b == 0x42 then some .ascii
  else if a == 0x28 && b == 0x4A then some .roman
  else if a == 0x28 && b == 0x49 then some .katakana
  else if a == 0x24 && (b == 0x40 || b == 0x42) then some .twoByte
  else none

def asciiChar (b : UInt8) : Char :=
  if b < 0x80 && b != 0x0E && b != 0x0F then Char.ofNat b.toNat else Reading.unreadable

def shiftedChar (s : Shift) (b : UInt8) : Char :=
  match s with
  | .roman => if b == 0x5C then '¥' else if b == 0x7E then '‾' else asciiChar b
  | .katakana => if isWithin 0x21 0x5F b then halfKana (b + 0x80) else Reading.unreadable
  | _ => asciiChar b

def escape? : Bytes → Option (Shift × Bytes)
  | a :: b :: rest => (shiftOf? a b).map fun s => (s, rest)
  | _ => none

def readShifted : Nat → Shift → Bool → Bytes → List Char
  | 0, _, _, _ => []
  | _ + 1, _, _, [] => []
  | fuel + 1, s, silent, b :: rest =>
    if b == 0x1B then
      match escape? rest with
      | some (s, rest) =>
        let r := readShifted fuel s true rest
        if silent then Reading.unreadable :: r else r
      | none => Reading.unreadable :: readShifted fuel s false rest
    else if s = .twoByte then
      if isWithin 0x21 0x7E b then
        match rest with
        | [] => [Reading.unreadable]
        | c :: more =>
          if c == 0x1B then Reading.unreadable :: readShifted fuel s false rest
          else
            let char? := if isWithin 0x21 0x7E c then
                japanese.char? ((b.toNat - 0x21) * 94 + (c.toNat - 0x21))
              else none
            char?.getD Reading.unreadable :: readShifted fuel s false more
      else Reading.unreadable :: readShifted fuel s false rest
    else shiftedChar s b :: readShifted fuel s false rest

def shiftJis : Bytes → List Char := readWide readShiftJis

def eucJp : Bytes → List Char := readWide readEucJp

def gb18030 : Bytes → List Char := readWide readGb

def big5 : Bytes → List Char := readWide (readPaired big5Pair)

def eucKr : Bytes → List Char := readWide (readPaired eucKrPair)

def iso2022Jp (s : Bytes) : List Char :=
  readShifted (s.length + 1) .ascii false s

end Letterbox.Mime.EastAsian
