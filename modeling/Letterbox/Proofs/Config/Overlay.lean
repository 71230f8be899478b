import Letterbox.Proofs.Config.Reading
import Letterbox.Proofs.Text.Lines

namespace Letterbox

namespace Toml

def Draft.IsTable : Draft → Prop
  | .table .. => True
  | _ => False

namespace Draft

theorem isTable_descend {dotted : Bool} {f : Draft → Option Draft} {path : List String}
    {t t' : Draft} (hf : ∀ d d', f d = some d' → d'.IsTable)
    (h : descend dotted f path t = some t') : t'.IsTable := by
  cases path with
  | nil => exact hf t t' h
  | cons name path =>
    cases t with
    | table i d fields =>
      rw [descend, Option.map_eq_some_iff] at h
      obtain ⟨_, _, rfl⟩ := h
      trivial
    | value v => cases h
    | tables l => cases h

theorem isTable_addField {nested : Bool} {name : String} {v : Toml} {t t' : Draft}
    (h : addField nested name v t = some t') : t'.IsTable := by
  unfold addField at h
  split at h
  · split at h
    · cases h
    · cases h
      trivial
  · cases h

theorem isTable_insert {path : List String} {v : Toml} {t t' : Draft}
    (h : insert path v t = some t') : t'.IsTable := by
  unfold insert at h
  split at h
  · cases h
  · exact isTable_descend (fun _ _ => isTable_addField) h

theorem isTable_openTable {path : List String} {t t' : Draft} (h : openTable path t = some t') :
    t'.IsTable := by
  unfold openTable at h
  split at h
  · cases h
  · refine isTable_descend (fun d d' hd => ?_) h
    split at hd
    · split at hd <;> cases hd <;> trivial
    · cases hd

theorem isTable_openElement {path : List String} {t t' : Draft} (h : openElement path t = some t') :
    t'.IsTable := by
  unfold openElement at h
  split at h
  · cases h
  · refine isTable_descend (fun d d' hd => ?_) h
    split at hd
    · split at hd <;> cases hd <;> trivial
    · cases hd

end Draft

theorem isTable_readLines {fuel : Nat} {current : List String} {root t : Draft} {s : List Char}
    (hroot : root.IsTable) (h : readLines fuel current root s = some t) : t.IsTable := by
  -- each line leaves the root a table, whichever table the lines behind it are for
  induction fuel generalizing current root s with
  | zero => cases h
  | succ fuel ih =>
    rw [readLines] at h
    split at h
    · cases h
      exact hroot
    · simp only [Option.bind_eq_bind, Option.bind_eq_some_iff] at h
      obtain ⟨_, _, root', hopen, _, _, h⟩ := h
      exact ih (Draft.isTable_openElement hopen) h
    · simp only [Option.bind_eq_bind, Option.bind_eq_some_iff] at h
      obtain ⟨_, _, root', hopen, _, _, h⟩ := h
      exact ih (Draft.isTable_openTable hopen) h
    · split at h
      · exact ih hroot h
      · simp only [Option.bind_eq_bind, Option.bind_eq_some_iff] at h
        obtain ⟨_, _, _, _, _, _, root', hinsert, _, _, h⟩ := h
        exact ih (Draft.isTable_descend (fun _ _ => Draft.isTable_insert) hinsert) h

theorem table_of_parse? {s : String} {t : Toml} (h : parse? s = some t) :
    ∃ fields, t = .table fields := by
  obtain ⟨root, hroot, rfl⟩ := Option.map_eq_some_iff.mp h
  have hempty : Draft.empty.IsTable := trivial
  have htable := isTable_readLines hempty hroot
  cases root with
  | table i d fields => exact ⟨_, by rw [Draft.toToml]⟩
  | value v => exact htable.elim
  | tables l => exact htable.elim

end Toml

namespace Layers

open Text

theorem overlay_of_not_table {v : Toml} (hv : ∀ fields, v ≠ .table fields) (base : Toml) :
    overlay v base = v := by
  cases v with
  | table fields => exact absurd rfl (hv fields)
  | _ => rw [overlay]; simp

theorem steps?_cons {fuel : Nat} {s : List Char} {steps : List Step}
    (h : steps? (fuel + 1) ('.' :: s) = some steps) : ∃ name rest, steps = .name name :: rest := by
  rw [steps?] at h
  split at h
  · cases h
  · obtain ⟨rest, -, rfl⟩ := Option.map_eq_some_iff.mp h
    exact ⟨_, rest, rfl⟩

theorem exists_path (s : List Char) : ∃ name rest, path s = .name name :: rest := by
  rw [path]
  cases h : steps? (s.length + 1) ('.' :: s) with
  | none => exact ⟨s, [], rfl⟩
  | some steps => exact steps?_cons h

theorem table_of_place {v t t' : Toml} {name : List Char} {rest : List Step}
    (h : place v (.name name :: rest) t = some t') : ∃ fields, t' = .table fields := by
  simp only [place, Option.bind_eq_bind, Option.bind_eq_some_iff] at h
  obtain ⟨new, -, h⟩ := h
  exact ⟨_, (Option.some.inj h).symm⟩

theorem table_of_foldlM_place {fields : List (String × Toml)} {base t : Toml}
    (hbase : ∃ b, base = .table b)
    (h : fields.foldlM (fun t f => place f.2 (path f.1.toList) t) base = some t) :
    ∃ fields', t = .table fields' := by
  induction fields generalizing base with
  | nil => exact Option.some.inj h ▸ hbase
  | cons f fields ih =>
    simp only [List.foldlM_cons, Option.bind_eq_bind, Option.bind_eq_some_iff] at h
    obtain ⟨next, hnext, h⟩ := h
    obtain ⟨name, rest, hpath⟩ := exists_path f.1.toList
    exact ih (table_of_place (hpath ▸ hnext)) h

theorem table_ofFile {fields : List (String × Toml)} {t : Toml}
    (h : ofFile (.table fields) = some t) : ∃ fields', t = .table fields' :=
  table_of_foldlM_place ⟨[], rfl⟩ h

def base? (file : Option String) : Option Toml :=
  match file with
  | some s => (Toml.parse? s).bind ofFile
  | none => some (.table [])

theorem load?_eq (file : Option String) (env : List (String × String)) :
    Config.load? file env = (base? file).bind fun base =>
      (env.foldlM (fun t v => withVariable t v.1 v.2) base).bind (Config.read? format) := by
  cases file <;> rfl

theorem table_of_base? {file : Option String} {t : Toml} (h : base? file = some t) :
    ∃ fields, t = .table fields := by
  cases file with
  | none => exact ⟨[], (Option.some.inj h).symm⟩
  | some s =>
    obtain ⟨parsed, hparsed, hfile⟩ := Option.bind_eq_some_iff.mp h
    obtain ⟨fields, rfl⟩ := Toml.table_of_parse? hparsed
    exact table_ofFile hfile

def section? (name : String) (fields : List (String × Toml)) : Option Toml :=
  ({ entries := fields, named := true } : Fields Toml).value? name

def sectionFields (name : String) (fields : List (String × Toml)) : List (String × Toml) :=
  fieldsOf ((section? name fields).getD (.table []))

def isListed (name : String) (fields : List (String × Toml)) : Bool :=
  match section? name fields with
  | some (.array _) => true
  | _ => false

theorem place_pair {name field : String} (hname : lowered name = name)
    (hfield : lowered field = field) {v : Toml} (hv : ∀ fields, v ≠ .table fields)
    (fields : List (String × Toml)) :
    place v [.name name.toList, .name field.toList] (.table fields) =
      some (.table
        (putField name (.table (putField field v (sectionFields name fields))) fields)) := by
  simp only [place, String.ofList_toList, hname, hfield, overlay_of_not_table hv]
  rfl

theorem record_cases {names : List String} {v : Toml} {r : Fields Toml}
    (h : format.record names v = some r) : (∃ inner, v = .table inner) ∨ ∃ l, v = .array l := by
  cases v with
  | table inner => exact Or.inl ⟨inner, rfl⟩
  | array l => exact Or.inr ⟨l, rfl⟩
  | _ => cases h

theorem read_sectionFields {S : Type} {read : Toml → Option S} {d c : S} {name : String}
    {fields : List (String × Toml)}
    (h : ({ entries := fields, named := true } : Fields Toml).withDefault name d read = some c)
    (hempty : read (.table []) = some d)
    (hrecord : ∀ {v : Toml} {c : S}, read v = some c → ∃ names r, format.record names v = some r) :
    read (.table (sectionFields name fields)) = some (if isListed name fields then d else c) := by
  rw [Fields.withDefault, ← section?] at h
  rw [sectionFields, isListed]
  cases hv : section? name fields with
  | none =>
    rw [hv] at h
    exact hempty.trans h
  | some v =>
    rw [hv] at h
    obtain ⟨names, r, hr⟩ := hrecord h
    rcases record_cases hr with ⟨inner, rfl⟩ | ⟨l, rfl⟩
    · exact h
    · exact hempty

end Layers

end Letterbox
