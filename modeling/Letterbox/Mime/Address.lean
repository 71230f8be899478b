import Letterbox.Mime.EncodedWord

namespace Letterbox.Mime

structure Mailbox where
  name : Option (List Char)
  address : Option (List Char)
  deriving DecidableEq, Repr

namespace AddressList

inductive Zone where
  | address
  | name
  | quote
  | comment
  deriving DecidableEq, Repr

structure State where
  token : Token := {}
  isAddress : Bool := false
  atStart : Bool := true
  escaped : Bool := false
  names : List (List Char) := []
  addresses : List (List Char) := []
  comments : List (List Char) := []
  zone : Zone := .name
  outer : List Zone := []
  mailboxes : List Mailbox := []
  groupName : Option (List Char) := none
  groupComment : Option (List Char) := none
  groups : List (List Mailbox) := []

namespace State

def spaced (pieces : List (List Char)) (piece : List Char) : List (List Char) :=
  pieces ++ (if pieces.isEmpty then [] else [[' ']]) ++ [piece]

def flush (st : State) (trailSpace : Bool) : State :=
  if st.token.isOpen then
    let piece := st.token.text
    let trail : List (List Char) := if trailSpace then [[' ']] else []
    let st' := { st with token := {}, isAddress := false, atStart := true, escaped := false }
    match st.zone with
    | .address => { st' with addresses := st.addresses ++ [piece] ++ trail }
    | .name =>
      if st.isAddress then { st' with addresses := st.addresses ++ [piece] ++ trail }
      else { st' with names := spaced st.names piece ++ trail }
    | .quote => { st' with names := st.names ++ [piece] ++ trail }
    | .comment => { st' with comments := spaced st.comments piece ++ trail }
  else st

def withComment (text comment : List Char) : List Char :=
  text ++ [' ', '('] ++ comment ++ [')']

def closeMailbox (st : State) : State :=
  let name := st.names.flatten
  let address := st.addresses.flatten
  let comment := st.comments.flatten
  let add := fun (n a : Option (List Char)) =>
    { st with names := [], addresses := [], comments := []
              mailboxes := st.mailboxes ++ [⟨n, a⟩] }
  match st.addresses.isEmpty, st.names.isEmpty, st.comments.isEmpty with
  | false, false, false => add (some (withComment name comment)) (some address)
  | false, false, true => add (some name) (some address)
  | false, true, false => add (some comment) (some address)
  | false, true, true => add none (some address)
  | true, false, false => add (some comment) (some name)
  | true, false, true => add (some name) none
  | true, true, false => add (some comment) none
  | true, true, true => st

def openGroup (st : State) : State :=
  let name := if st.names.isEmpty then st.groupName else some st.names.flatten
  let name :=
    if st.addresses.isEmpty then name
    else match name with
      | none => some st.addresses.flatten
      | some n => some (n ++ ' ' :: st.addresses.flatten)
  let comment := if st.comments.isEmpty then st.groupComment else some st.comments.flatten
  { st with names := [], addresses := [], comments := []
            groupName := name, groupComment := comment }

def closeGroup (st : State) : State :=
  match st.mailboxes.isEmpty, st.groupName with
  | true, none => st
  | true, some _ => { st with groups := st.groups ++ [[]], groupName := none }
  | false, some _ =>
    { st with groups := st.groups ++ [st.mailboxes], mailboxes := [], groupName := none
              groupComment := none }
  | false, none =>
    { st with groups := st.groups ++ [st.mailboxes], mailboxes := [], groupComment := none }

def push (st : State) (b : UInt8) : State :=
  { st with escaped := false, atStart := false, token := st.token.push b }

def skip (st : State) (b : UInt8) : State :=
  { st with token := st.token.skip b }

def enter (st : State) (zone : Zone) : State :=
  { st with outer := st.zone :: st.outer, zone := zone }

def leave (st : State) : State :=
  match st.outer with
  | z :: outer => { st with zone := z, outer := outer }
  | [] => { st with zone := .name }

def blank (st : State) (b : UInt8) : State :=
  let st := { st with atStart := true, escaped := false }
  if st.zone = .quote then { st with token := st.token.push b } else st.skip b

def step (st : State) (b : UInt8) : State :=
  if b == 10 then { st.flush false with atStart := true }
  else if b == 92 && st.zone != .name && !st.escaped then { st.flush false with escaped := true }
  else if b == 44 && st.zone = .name then (st.flush false).closeMailbox
  else if b == 60 && st.zone = .name then
    ({ st with isAddress := false }.flush false).enter .address
  else if b == 62 && st.zone = .address then (st.flush false).leave
  else if b == 34 && !st.escaped && st.zone = .name then (st.enter .quote).flush false
  else if b == 34 && !st.escaped && st.zone = .quote then (st.flush false).leave
  else if b == 64 && st.zone = .name then { st with isAddress := true }.push b
  else if isFold b then st.blank b
  else if b == 13 then st.skip b
  else if b == 40 && st.zone != .quote && !st.escaped then
    if st.zone = .comment then (st.enter .comment).push b
    else (st.flush false).enter .comment
  else if b == 41 && st.zone = .comment && !st.escaped then
    match st.outer with
    | .comment :: outer => { st with outer := outer }.push b
    | z :: outer => { st.flush false with outer := outer, zone := z }
    | [] => (st.flush false).leave
  else if b == 58 && st.zone = .name then (st.closeGroup.flush false).openGroup
  else if b == 59 && st.zone = .name then (st.flush false).closeMailbox.closeGroup
  else st.push b

def addWord (st : State) (w : List Char) : State :=
  let st := st.flush (st.zone != .quote)
  if st.zone = .comment then { st with comments := st.comments ++ [w] }
  else { st with names := st.names ++ [w] }

end State

def run : Nat → State → Bytes → State
  | 0, st, _ => st
  | _ + 1, st, [] => st
  | fuel + 1, st, b :: rest =>
    if b == 61 && st.atStart && !st.escaped then
      match EncodedWord.read rest with
      | some (w, rest) => run fuel (st.addWord w) rest
      | none => run fuel (st.step b) rest
    else run fuel (st.step b) rest

def read (s : Bytes) (ended : Bool) : List Mailbox :=
  let st := run (s.length + 1) {} s
  let st := if ended then st.flush false else st
  let st := st.closeMailbox
  if st.groupName.isSome || !st.groups.isEmpty then st.closeGroup.groups.flatten
  else st.mailboxes

end AddressList

end Letterbox.Mime
