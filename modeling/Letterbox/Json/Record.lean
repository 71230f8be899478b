import Letterbox.Json.Basic

namespace Letterbox

def putField {V : Type} (name : String) (v : V) (entries : List (String × V)) : List (String × V) :=
  if entries.any fun f => f.1 == name then
    entries.map fun f => if f.1 == name then (name, v) else f
  else entries ++ [(name, v)]

structure Fields (V : Type) where
  entries : List (String × V)
  named : Bool

namespace Fields

variable {V α : Type}

def ofNamed? (names : List String) (entries : List (String × V)) : Option (Fields V) :=
  let known := (entries.map (·.1)).filter names.contains
  if known.eraseDups.length == known.length then some { entries, named := true } else none

def ofItems (names : List String) (items : List V) : Fields V :=
  { entries := names.zip items, named := false }

def value? (r : Fields V) (name : String) : Option V :=
  (r.entries.find? fun f => f.1 == name).map (·.2)

def required (r : Fields V) (name : String) (read : V → Option α) : Option α :=
  (r.value? name).bind read

def withDefault (r : Fields V) (name : String) (a : α) (read : V → Option α) : Option α :=
  match r.value? name with
  | some v => read v
  | none => some a

end Fields

def readItems {V α : Type} (read : V → Option α) : List V → Option (List α)
  | [] => some []
  | v :: rest =>
    match read v with
    | some a => (readItems read rest).map (a :: ·)
    | none => none

namespace Json

def record? (names : List String) : Json → Option (Fields Json)
  | .object fields => Fields.ofNamed? names fields
  | .array items =>
    if items.length ≤ names.length then some (Fields.ofItems names items) else none
  | _ => none

def string? : Json → Option String
  | .string s => some s
  | _ => none

def bool? : Json → Option Bool
  | .bool b => some b
  | _ => none

def int? : Json → Option Int
  | .int i => some i
  | _ => none

def nat? : Json → Option Nat
  | .int (.ofNat n) => some n
  | _ => none

def natBelow? (bound : Nat) : Json → Option Nat
  | .int i => if 0 ≤ i && i < bound then some i.toNat else none
  | _ => none

def list? {α : Type} (read : Json → Option α) : Json → Option (List α)
  | .array items => readItems read items
  | _ => none

def orNull? {α : Type} (read : Json → Option α) : Json → Option (Option α)
  | .null => some none
  | v => (read v).map some

def ofUInt64 (n : UInt64) : Json :=
  .nat n.toNat

def ofUInt32 (n : UInt32) : Json :=
  .nat n.toNat

def uint64? (v : Json) : Option UInt64 :=
  (natBelow? 18446744073709551616 v).map Nat.toUInt64

def uint32? (v : Json) : Option UInt32 :=
  (natBelow? 4294967296 v).map Nat.toUInt32

def strings? : Json → Option (List String) :=
  list? string?

end Json

def Fields.optional {α : Type} (r : Fields Json) (name : String) (read : Json → Option α) :
    Option (Option α) :=
  match r.value? name with
  | some v => Json.orNull? read v
  | none => if r.named then some none else none

end Letterbox
