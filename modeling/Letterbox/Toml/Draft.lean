import Letterbox.Toml.Basic

namespace Letterbox.Toml

inductive Draft where
  | value (v : Toml)
  | table (implicit dotted : Bool) (fields : List (String × Draft))
  | tables (l : List Draft)
  deriving Inhabited

namespace Draft

def empty : Draft :=
  .table false false []

def field? (name : String) (fields : List (String × Draft)) : Option Draft :=
  (fields.find? fun f => f.1 == name).map (·.2)

def put (name : String) (d : Draft) (fields : List (String × Draft)) : List (String × Draft) :=
  if fields.any fun f => f.1 == name then
    fields.map fun f => if f.1 == name then (name, d) else f
  else fields ++ [(name, d)]

def descend (dotted : Bool) (f : Draft → Option Draft) : List String → Draft → Option Draft
  | [], t => f t
  | name :: path, .table i d fields =>
    (match field? name fields with
      | none => descend dotted f path (.table true dotted [])
      | some (.value _) => none
      | some (.table i d fields) =>
        if dotted && !i then none else descend dotted f path (.table i d fields)
      | some (.tables l) =>
        match l.getLast? with
        | some t => (descend dotted f path t).map fun t => .tables (l.dropLast ++ [t])
        | none => none).map fun t => .table i d (put name t fields)
  | _ :: _, _ => none

def addField (nested : Bool) (name : String) (v : Toml) : Draft → Option Draft
  | .table i d fields =>
    if d != nested || (field? name fields).isSome then none
    else some (.table i d (fields ++ [(name, .value v)]))
  | _ => none

def insert (path : List String) (v : Toml) (t : Draft) : Option Draft :=
  match path.getLast? with
  | none => none
  | some name =>
    let way := path.dropLast
    descend true (addField (!way.isEmpty) name v) way t

def openTable (path : List String) (t : Draft) : Option Draft :=
  match path.getLast? with
  | none => none
  | some name =>
    descend false (fun t => match t with
      | .table i d fields =>
        match field? name fields with
        | none => some (.table i d (put name empty fields))
        | some (.table true false inner) =>
          some (.table i d (put name (.table false false inner) fields))
        | some _ => none
      | _ => none) path.dropLast t

def openElement (path : List String) (t : Draft) : Option Draft :=
  match path.getLast? with
  | none => none
  | some name =>
    descend false (fun t => match t with
      | .table i d fields =>
        match field? name fields with
        | none => some (.table i d (put name (.tables [empty]) fields))
        | some (.tables l) => some (.table i d (put name (.tables (l ++ [empty])) fields))
        | some _ => none
      | _ => none) path.dropLast t

mutual

def toToml : Draft → Toml
  | .value v => v
  | .table _ _ fields => .table (toFields fields)
  | .tables l => .array (toItems l)

def toFields : List (String × Draft) → List (String × Toml)
  | [] => []
  | (name, d) :: rest => (name, d.toToml) :: toFields rest

def toItems : List Draft → List Toml
  | [] => []
  | d :: rest => d.toToml :: toItems rest

end

end Draft

end Letterbox.Toml
