import Letterbox.Config.Format
import Letterbox.Text.Lines
import Letterbox.Text.Lowercase
import Letterbox.Toml.Reader

namespace Letterbox

namespace Layers

open Text

def lowered (name : String) : String :=
  String.ofList (lower name.toList)

def fieldsOf : Toml → List (String × Toml)
  | .table fields => fields
  | _ => []

def itemsOf : Toml → List Toml
  | .array items => items
  | _ => []

def fieldOr (v : Toml) (name : String) (fields : List (String × Toml)) : Toml :=
  ((fields.find? fun f => f.1 == name).map (·.2)).getD v

mutual

def overlay : Toml → Toml → Toml
  | .table fields, base =>
    if fields.isEmpty then base else .table (overlayFields fields (fieldsOf base))
  | v, _ => v

def overlayFields : List (String × Toml) → List (String × Toml) → List (String × Toml)
  | [], base => base
  | (name, v) :: rest, base =>
    let name := lowered name
    overlayFields rest (putField name (overlay v (fieldOr (.table []) name base)) base)

end

def envStart : List Char :=
  "mailbox__".toList

def dotted : List Char → List Char
  | '_' :: '_' :: rest => '.' :: dotted rest
  | c :: rest => c :: dotted rest
  | [] => []

def isNameChar (c : Char) : Bool :=
  c.toNat < 128 && (c.isAlphanum || c == '_' || c == '-' || c == ' ')

inductive Step where
  | name (s : List Char)
  | index (i : Int)
  deriving DecidableEq, Repr

def within (low high : Int) (i : Int) : Option Int :=
  if low ≤ i && i ≤ high then some i else none

def skipGap (s : List Char) : List Char :=
  s.dropWhile fun c => c == ' ' || c == '\t'

def index? (s : List Char) : Option (Int × List Char) :=
  let (negative, rest) := match skipGap s with
    | '-' :: rest => (true, rest)
    | rest => (false, rest)
  let ds := rest.takeWhile isDigit
  match skipGap (rest.dropWhile isDigit) with
  | ']' :: rest =>
    if ds.isEmpty then none
    else
      let n : Int := ofDigits ds
      (within (-9223372036854775808) 9223372036854775807 (if negative then -n else n)).map
        fun i => (i, rest)
  | _ => none

def steps? : Nat → List Char → Option (List Step)
  | _, [] => some []
  | 0, _ => none
  | fuel + 1, '.' :: rest =>
    let name := rest.takeWhile isNameChar
    if name.isEmpty then none
    else (steps? fuel (rest.dropWhile isNameChar)).map (.name name :: ·)
  | fuel + 1, '[' :: rest => do
    let (i, rest) ← index? rest
    return .index i :: (← steps? fuel rest)
  | _, _ => none

def path (s : List Char) : List Step :=
  (steps? (s.length + 1) ('.' :: s)).getD [.name s]

def variablePath? (name : String) : Option (List Step) :=
  let name := lower name.toList
  if envStart.isPrefixOf name then some (path (dotted (name.drop envStart.length))) else none

def integer? (s : List Char) : Option Int :=
  let (negative, ds) := match s with
    | '-' :: ds => (true, ds)
    | '+' :: ds => (false, ds)
    | ds => (false, ds)
  if ds.isEmpty || !ds.all isDigit then none
  else
    let n : Int := ofDigits ds
    some (if negative then -n else n)

def int64? (s : List Char) : Option Int :=
  (integer? s).bind (within (-9223372036854775808) 9223372036854775807)

def ofVariable (s : String) : Toml :=
  match String.ofList (lower s.toList) with
  | "true" => .bool true
  | "false" => .bool false
  | _ =>
    match int64? s.toList with
    | some i => .integer i
    | none =>
      match Binary64.read? s.toList with
      | some x => .float x
      | none => .string s

def position? (i : Int) (length : Nat) : Option Nat :=
  if 0 ≤ i then some i.toNat
  else if i.natAbs ≤ length then some (length - i.natAbs)
  else none

/-- Puts a value at the end of a path. What stands on the way and is no table or no list is emptied,
and a list that is too short is filled up. -/
def place (v : Toml) : List Step → Toml → Option Toml
  | [], base => some (overlay v base)
  | .name s :: rest, base => do
    let name := lowered (String.ofList s)
    let new ← place v rest (fieldOr (.table []) name (fieldsOf base))
    return .table (putField name new (fieldsOf base))
  | .index i :: rest, base => do
    let items := itemsOf base
    let n ← position? i items.length
    let items := items ++ List.replicate (n + 1 - items.length) .missing
    let new ← if rest.isEmpty then some v else place v rest (items.getD n .missing)
    return .array (items.set n new)

def ofFile : Toml → Option Toml
  | .table fields => fields.foldlM (fun t f => place f.2 (path f.1.toList) t) (.table [])
  | v => some v

def withVariable (base : Toml) (name value : String) : Option Toml :=
  match variablePath? name with
  | some p => place (ofVariable value) p base
  | none => some base

def isYes (s : String) : Bool :=
  ["true", "on", "yes"].contains (lowered s)

def isNo (s : String) : Bool :=
  ["false", "off", "no"].contains (lowered s)

def asString : Toml → Option String
  | .string s => some s
  | .moment s => some s
  | .bool b => some (if b then "true" else "false")
  | .integer i => some (String.ofList (intDigits i))
  | .float x => some (String.ofList x.text)
  | _ => none

def asBool : Toml → Option Bool
  | .bool b => some b
  | .integer i => some (i != 0)
  | .float x => some !x.isZero
  | .string s =>
    if isYes s || s == "1" then some true
    else if isNo s || s == "0" then some false
    else none
  | _ => none

def asInteger (low high : Int) : Toml → Option Int
  | .integer i => within low high i
  | .bool b => some (if b then 1 else 0)
  | .float x => some (x.clamp low high)
  | .string s =>
    if isYes s then some 1
    else if isNo s then some 0
    else if 0 ≤ low && s.toList.head? == some '-' then none
    else (integer? s.toList).bind (within low high)
  | _ => none

def asUnsigned (v : Toml) : Option UInt64 :=
  (asInteger 0 18446744073709551615 v).map fun i => i.toNat.toUInt64

def asSigned (v : Toml) : Option Int :=
  (asInteger (-9223372036854775808) 9223372036854775807 v).map fun i => i.bmod 4294967296

def format : Format Toml where
  record names
    | .table fields => Fields.ofNamed? names fields
    | .array items => some (Fields.ofItems names items)
    | _ => none
  items
    | .array l => some l
    | _ => none
  isNull
    | .missing => true
    | _ => false
  string := asString
  bool := asBool
  unsigned := asUnsigned
  signed := asSigned

end Layers

def Config.load? (file : Option String) (env : List (String × String)) : Option Config := do
  let base ← match file with
    | some s => (Toml.parse? s).bind Layers.ofFile
    | none => some (.table [])
  Config.read? Layers.format (← env.foldlM (fun t v => Layers.withVariable t v.1 v.2) base)

end Letterbox
