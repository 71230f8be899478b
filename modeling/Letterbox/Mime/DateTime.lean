import Letterbox.Mime.Token

namespace Letterbox.Mime

structure DateTime where
  year : Nat
  month : Nat
  day : Nat
  hour : Nat
  minute : Nat
  second : Nat
  zoneHour : Nat
  zoneMinute : Nat
  west : Bool
  deriving DecidableEq, Repr

namespace DateTime

structure Part where
  left : Nat
  value : Nat := 0
  deriving DecidableEq, Repr

def Part.add (p : Part) (d : Nat) : Part :=
  if p.left == 0 then p else { left := p.left - 1, value := p.value + d * Nat.pow 10 (p.left - 1) }

def Part.close (p : Part) : Part :=
  { p with value := p.value / Nat.pow 10 p.left }

def parts : List Part :=
  [2, 2, 4, 2, 2, 2, 4].map fun w => { left := w }

structure State where
  parts : List Part := DateTime.parts
  position : Nat := 0
  monthSum : Nat := 0
  monthLetters : Nat := 0
  west : Bool := false
  newToken : Bool := true
  ignore : Bool := true
  comments : Nat := 0

def letterCode (b : UInt8) : Nat :=
  match (lowerByte b).toNat with
  | 97 => 0 | 98 => 14 | 99 => 4 | 101 => 10 | 103 => 14 | 108 => 4 | 110 => 10
  | 111 => 15 | 112 => 15 | 114 => 5 | 116 => 0 | 117 => 5 | 118 => 12 | 121 => 0
  | _ => 28

def monthOfSum : Nat → Nat
  | 0 => 5 | 4 => 10 | 5 => 3 | 9 => 7 | 10 => 1 | 14 => 12 | 15 => 6 | 19 => 8 | 20 => 4
  | 24 => 2 | 25 => 9 | 27 => 11
  | _ => 0

namespace State

def next (st : State) : State :=
  { st with
    parts := st.parts.modify st.position Part.close
    position := st.position + 1
    ignore := true
    newToken := true }

def digit (st : State) (b : UInt8) : State :=
  match st.parts[st.position]? with
  | some p =>
    if p.left == 0 then { st with newToken := false }
    else { st with
      parts := st.parts.set st.position (p.add (b.toNat - 48))
      newToken := false
      ignore := false }
  | none => st

def letter (st : State) (b : UInt8) : State :=
  if st.position == 1 then
    let sum := if st.monthLetters == 1 || st.monthLetters == 2 then letterCode b else 0
    { st with
      monthSum := st.monthSum + sum
      monthLetters := st.monthLetters + 1
      newToken := false
      ignore := false }
  else st

def isLetter (b : UInt8) : Bool :=
  let l := lowerByte b
  97 ≤ l && l ≤ 122

def gap (st : State) : State :=
  if !st.newToken && !st.ignore then st.next else st

def step (st : State) (b : UInt8) : State :=
  if st.comments > 0 && b != 10 then
    if b == 41 then { st with comments := st.comments - 1 }
    else if b == 40 then { st with comments := st.comments + 1 }
    else st
  else if isDigitByte b then st.digit b
  else if b == 58 then
    if st.position == 3 || st.position == 4 then st.gap else st
  else if b == 43 then { st with position := 6 }
  else if b == 45 then { st with position := 6, west := true }
  else if isFold b || b == 10 then if st.comments == 0 then st.gap else st
  else if isLetter b then st.letter b
  else if b == 40 then { st with comments := st.comments + 1 }
  else st

end State

def value (st : State) (i : Nat) : Nat :=
  (st.parts[i]?.map (·.value)).getD 0

def fullYear (y : Nat) : Nat :=
  if y < 50 then y + 2000 else if y < 100 then y + 1900 else y

def read (s : Bytes) : Option DateTime :=
  let st := s.foldl State.step {}
  if st.position < 6 then none
  else some {
    year := fullYear (value st 2)
    month := if st.monthLetters == 3 && st.monthSum ≤ 27 then monthOfSum st.monthSum
      else value st 1
    day := value st 0
    hour := value st 3
    minute := value st 4
    second := value st 5
    zoneHour := value st 6 / 100
    zoneMinute := value st 6 % 100
    west := st.west }

def days (d : DateTime) : Int :=
  let early := d.month < 3
  let march : Nat := if early then d.month + 9 else d.month - 3
  let y : Int := d.year + 4800 - (if early then 1 else 0)
  let monthDays : Int := (march * 62719 + 769) / 2048
  y * 365 + (y / 4 - y / 100 + y / 400) + monthDays + ((d.day : Int) - 1) - 2472632

def toSeconds (d : DateTime) : Int :=
  let zone : Int := d.zoneHour * 3600 + d.zoneMinute * 60
  d.days * 86400 + d.hour * 3600 + d.minute * 60 + d.second + (if d.west then zone else -zone)

end DateTime

end Letterbox.Mime
