import Letterbox.Mailbox.Record
import Letterbox.Time.Calendar

namespace Letterbox

open Text

def Text.filled (width : Nat) (s : List Char) : List Char :=
  s ++ List.replicate (width - s.length) ' '

def Instant.minuteText (t : Instant) : List Char :=
  let ofDay := (t.seconds % 86400).toNat
  (Date.ofDays (t.seconds / 86400)).text ++
    ' ' :: padded 2 (ofDay / 3600) ++ ':' :: padded 2 (ofDay / 60 % 60)

namespace Summary

def senderText (s : Summary) : String :=
  (s.parties.sender.map Address.display).getD ""

def lineChars (s : Summary) : List Char :=
  (if s.read then ' ' else '*') :: ' ' :: s.id.toList ++
    ' ' :: ' ' :: s.created.minuteText ++
    ' ' :: ' ' :: filled 30 s.senderText.toList ++
    ' ' :: ' ' :: s.subject.toList ++ ['\n']

def line (s : Summary) : String :=
  String.ofList s.lineChars

end Summary

end Letterbox
