import Letterbox.Json.Printer
import Letterbox.Mailbox.Tables
import Letterbox.Number.Binary64
import Letterbox.Query.Reader
import Letterbox.Text.Wildcard

namespace Letterbox.Search

open Query Text

def contains? (value text : List Char) : Except Unsearchable Bool :=
  let pattern := Wildcard.containing value
  if Wildcard.isTooLong pattern then .error .patternTooLong
  else .ok (Wildcard.matches? pattern text)

def anyContains? (value : List Char) : List (List Char) → Except Unsearchable Bool
  | [] => .ok false
  | text :: rest => do
    if ← contains? value text then return true else anyContains? value rest

def member? (name : String) : Json → Option Json
  | .object fields => (fields.find? fun f => f.1 == name).map (·.2)
  | _ => none

def fitsColumn (i : Int) : Bool :=
  -9223372036854775808 ≤ i && i ≤ 9223372036854775807

def textOf? (v : Json) : Option (List Char) :=
  match Json.Relaxed.reread v with
  | .null => none
  | .string s => some s.toList
  | .int i =>
    some (if fitsColumn i then intDigits i
      else (Binary64.ofDecimal (i < 0) (digits i.natAbs) 0).columnText)
  | .raw s => (Binary64.read? s.toList).map Binary64.columnText
  | .bool b => some (if b then ['1'] else ['0'])
  | v => some v.render.toList

def fieldText? (name : String) (v : Json) : Option (List Char) :=
  (member? name v).bind textOf?

def listed (name : String) (metadata : Json) : List Json :=
  match member? name metadata with
  | none => []
  | some (.array items) => items
  | some (.object fields) => fields.map (·.2)
  | some v => [v]

def itemTexts? (item : Json) : Except Unsearchable (List (List Char)) :=
  let texts (v : Json) := [fieldText? "address" v, fieldText? "name" v].filterMap id
  match Json.Relaxed.reread item with
  | .string s =>
    match Json.Relaxed.parse? s with
    | some v => .ok (texts v)
    | none => .error .unreadableMetadata
  | v => .ok (texts v)

def anyItem? (value : List Char) : List Json → Except Unsearchable Bool
  | [] => .ok false
  | item :: rest => do
    if ← anyContains? value (← itemTexts? item) then return true else anyItem? value rest

def anyListed? (value : List Char) (metadata : Json) : List String → Except Unsearchable Bool
  | [] => .ok false
  | name :: rest => do
    if ← anyItem? value (listed name metadata) then return true else anyListed? value metadata rest

def senderHas? (value : List Char) (metadata : Json) : Except Unsearchable Bool :=
  let sender := (member? "from" metadata).getD .null
  anyContains? value
    [(fieldText? "address" sender).getD [], (fieldText? "name" sender).getD []]

def withMetadata (r : Row) (f : Json → Except Unsearchable Bool) : Except Unsearchable Bool :=
  match r.metadata.column? with
  | some v => f v
  | none => .error .unreadableMetadata

def keysOf (t : Tables) (id : String) : List String :=
  (t.tags.filter (t.carries id)).map TagRow.key

def bareId (value : String) : String :=
  String.ofList (trimBoth (fun c => c == '<' || c == '>') value.toList)

def dayStart (d : Date) : Int :=
  d.toDays * 86400000

def fieldHolds? (t : Tables) (r : Row) (field : Field) (value : String) :
    Except Unsearchable Bool :=
  let v := value.toList
  match field with
  | .sender => withMetadata r (senderHas? v)
  | .recipient => withMetadata r fun m => anyListed? v m ["to"]
  | .copy => withMetadata r fun m => anyListed? v m ["cc"]
  | .blindCopy => withMetadata r fun m => anyListed? v m ["bcc"]
  | .replyTo => withMetadata r fun m => anyListed? v m ["reply_to"]
  | .addressed => withMetadata r fun m => anyListed? v m ["to", "cc", "bcc"]
  | .subject => contains? v r.subject.toList
  | .messageId => .ok (r.messageId == bareId value)
  | .tag => .ok ((keysOf t r.id).contains (Tag.key value))

def flagHolds (t : Tables) (r : Row) : Flag → Bool
  | .read => r.read
  | .unread => !r.read
  | .tagged => t.links.any fun l => l.1 == r.id
  | .attachment => decide (0 < r.attachmentCount)
  | .inlinePart => decide (0 < r.inlineCount)

def conditionHolds? (t : Tables) (r : Row) : Condition → Except Unsearchable Bool
  | .text value =>
    anyContains? (lower value.toList) (r.searchText.toList :: (keysOf t r.id).map String.toList)
  | .field field value => fieldHolds? t r field value
  | .flag flag => .ok (flagHolds t r flag)
  | .date .before d => .ok (decide (r.created < dayStart d))
  | .date .after d => .ok (decide (dayStart d ≤ r.created))

inductive Index where
  | read
  | messageId
  | id
  | created
  deriving DecidableEq, Repr

def indexOf? : Condition → Option Index
  | .flag .read => some .read
  | .flag .unread => some .read
  | .flag .tagged => some .id
  | .field .messageId _ => some .messageId
  | .field .tag _ => some .id
  | .date _ _ => some .created
  | _ => none

def fixed? : Index → Condition → Option String
  | .read, .flag .read => some "1"
  | .read, .flag .unread => some "0"
  | .messageId, .field .messageId v => some (bareId v)
  | _, _ => none

def asked? (i : Index) (term : Term) : Option String :=
  if term.negated then none else fixed? i term.condition

def admits (i : Index) (v : String) (term : Term) : Bool :=
  match fixed? i term.condition with
  | some w => (v == w) != term.negated
  | none => true

def keepLast (i : Index) : List Term → List Term
  | [] => []
  | term :: rest =>
    if (fixed? i term.condition).isNone ||
        ((asked? i term).isSome && rest.all fun other => (asked? i other).isNone) then
      term :: keepLast i rest
    else keepLast i rest

/-- Where terms ask for a value under an index, the other terms about such values are decided from
the last of these before any row is looked at. One that is false leaves no rows to look at. -/
def settle (i : Index) (terms : List Term) : Option (List Term) :=
  match (terms.filterMap (asked? i)).getLast? with
  | none => some terms
  | some v => if terms.all (admits i v) then some (keepLast i terms) else none

/-- The index by which a statement looks rows up, if it uses any. Rows are listed by their time. -/
def scanned? (listing : Bool) (terms : List Term) : Option Index :=
  let among (i : Index) := terms.countP fun t => !t.negated && indexOf? t.condition == some i
  if 2 ≤ among .read || (among .read == 1 && among .messageId ≤ 1) then some .read
  else if 1 ≤ among .messageId then some .messageId
  else if 1 ≤ among .id then some .id
  else if listing || 1 ≤ among .created then some .created
  else none

def goesThroughLists : Condition → Bool
  | .field .recipient _ => true
  | .field .copy _ => true
  | .field .blindCopy _ => true
  | .field .replyTo _ => true
  | .field .addressed _ => true
  | _ => false

def rank (scanned : Option Index) (term : Term) : Nat :=
  if scanned.isSome && indexOf? term.condition == scanned then 0
  else if goesThroughLists term.condition then 2
  else 1

def arranged (scanned : Option Index) (terms : List Term) : List Term :=
  (terms.filter fun t => rank scanned t == 0) ++ (terms.filter fun t => rank scanned t == 1) ++
    (terms.filter fun t => rank scanned t == 2)

def plan (listing : Bool) (terms : List Term) : Option (List Term) :=
  ((settle .read terms).bind (settle .messageId)).map (arranged (scanned? listing terms))

def allHold? (t : Tables) (r : Row) : List Term → Except Unsearchable Bool
  | [] => .ok true
  | term :: rest => do
    if (← conditionHolds? t r term.condition) != term.negated then allHold? t r rest
    else return false

def depth (term : Term) : Nat :=
  let own := match term.condition with
    | .text _ => 9
    | .field .sender _ => 5
    | .field .addressed _ => 11
    | .field .recipient _ => 9
    | .field .copy _ => 9
    | .field .blindCopy _ => 9
    | .field .replyTo _ => 9
    | .field .tag _ => 8
    | .flag .tagged => 3
    | _ => 2
  if term.negated then own + 1 else own

def totalDepth (terms : List Term) : Nat :=
  terms.foldl (fun n term => max n (depth term) + 1) 2

def depthLimit : Nat := 1000

def rowsWhere (p : Row → Except Unsearchable Bool) :
    Option Nat → List Row → Except Unsearchable (List Row)
  | some 0, _ => .ok []
  | _, [] => .ok []
  | most, r :: rest => do
    if ← p r then return r :: (← rowsWhere p (most.map (· - 1)) rest) else rowsWhere p most rest

def rows? (t : Tables) (listing : Bool) (most : Option Nat) (terms : List Term) :
    Except Unsearchable (List Row) :=
  if depthLimit < totalDepth terms then .error .tooManyTerms
  else
    match plan listing terms with
    | none => .ok []
    | some planned =>
      let most := if scanned? listing terms == some .created then most else none
      rowsWhere (fun r => allHold? t r planned) most t.newestFirst

end Letterbox.Search
