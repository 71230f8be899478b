import Letterbox.Json.Record
import Mathlib.Data.List.Nodup

namespace Letterbox

theorem eraseDups_of_nodup {names : List String} (h : names.Nodup) : names.eraseDups = names := by
  induction names with
  | nil => rfl
  | cons name names ih =>
    obtain ⟨hname, hnames⟩ := List.nodup_cons.mp h
    have hfilter : (names.filter fun n => !n == name) = names := by
      refine List.filter_eq_self.mpr ?_
      intro n hn
      have hne : n ≠ name := fun heq => hname (heq ▸ hn)
      simpa using hne
    rw [List.eraseDups_cons, hfilter, ih hnames]

theorem length_eraseDups_le (names : List String) : names.eraseDups.length ≤ names.length := by
  induction hn : names.length using Nat.strongRecOn generalizing names with
  | _ n ih =>
    cases names with
    | nil => simp
    | cons name names =>
      have hfilter := List.length_filter_le (fun n => !n == name) names
      rw [List.length_cons] at hn
      have hrest := ih _ (by omega) (names.filter fun n => !n == name) rfl
      rw [List.eraseDups_cons, List.length_cons]
      omega

theorem nodup_of_length_eraseDups {names : List String}
    (h : names.eraseDups.length = names.length) : names.Nodup := by
  induction names with
  | nil => exact List.nodup_nil
  | cons name names ih =>
    have hle := length_eraseDups_le (names.filter fun n => !n == name)
    have hfilter := List.length_filter_le (fun n => !n == name) names
    rw [List.eraseDups_cons, List.length_cons, List.length_cons] at h
    have hall : (names.filter fun n => !n == name) = names :=
      List.filter_sublist.eq_of_length (by omega)
    rw [hall] at h
    refine List.nodup_cons.mpr ⟨fun hmem => ?_, ih (by omega)⟩
    rw [← hall] at hmem
    simpa using (List.mem_filter.mp hmem).2

namespace Fields

variable {V α : Type}

theorem ofNamed?_eq_some_iff {names : List String} {entries : List (String × V)} {r : Fields V} :
    ofNamed? names entries = some r ↔
      ((entries.map (·.1)).filter names.contains).Nodup ∧ r = { entries, named := true } := by
  simp only [ofNamed?]
  split
  · rename_i h
    rw [Option.some.injEq, eq_comm]
    exact (and_iff_right (nodup_of_length_eraseDups (beq_iff_eq.mp h))).symm
  · rename_i h
    refine ⟨nofun, fun ⟨hnodup, _⟩ => absurd ?_ h⟩
    rw [eraseDups_of_nodup hnodup, beq_self_eq_true]

theorem required_eq {r : Fields V} {name : String} {v : V} {read : V → Option α}
    (h : r.value? name = some v) : r.required name read = read v := by
  rw [required, h, Option.bind_some]

theorem withDefault_eq {r : Fields V} {name : String} {v : V} {a : α} {read : V → Option α}
    (h : r.value? name = some v) : r.withDefault name a read = read v := by
  rw [withDefault, h]

theorem withDefault_of_none {r : Fields V} {name : String} {a b : α} {read : V → Option α}
    (hnone : r.value? name = none) (h : r.withDefault name a read = some b) : b = a := by
  rw [withDefault, hnone] at h
  exact (Option.some.inj h).symm

theorem optional_eq {r : Fields Json} {name : String} {v : Json} {read : Json → Option α}
    (h : r.value? name = some v) : r.optional name read = Json.orNull? read v := by
  rw [optional, h]

def put (r : Fields V) (name : String) (v : V) : Fields V :=
  { r with entries := putField name v r.entries }

theorem any_name_iff {name : String} {entries : List (String × V)} :
    (entries.any fun f => f.1 == name) = true ↔ name ∈ entries.map (·.1) := by
  rw [List.any_eq_true, List.mem_map]
  exact exists_congr fun f => and_congr_right fun _ => beq_iff_eq

theorem names_putField (name : String) (v : V) (entries : List (String × V)) :
    (putField name v entries).map (·.1) =
      if name ∈ entries.map (·.1) then entries.map (·.1) else entries.map (·.1) ++ [name] := by
  rw [putField]
  by_cases h : name ∈ entries.map (·.1)
  · rw [if_pos h, if_pos (any_name_iff.mpr h), List.map_map]
    refine List.map_congr_left ?_
    intro f _
    by_cases hf : f.1 = name <;> simp [hf]
  · rw [if_neg h, if_neg (mt any_name_iff.mp h), List.map_append]
    rfl

theorem find?_replaced (name : String) (v : V) (other : String) (entries : List (String × V)) :
    (entries.map fun f => if f.1 == name then (name, v) else f).find? (fun f => f.1 == other) =
      (entries.find? fun f => f.1 == other).map fun f => if f.1 == name then (name, v) else f := by
  -- a field keeps its name when its value is replaced
  have hnames : ((fun f : String × V => f.1 == other) ∘
      fun f => if f.1 == name then (name, v) else f) = fun f => f.1 == other := by
    funext f
    by_cases hf : f.1 = name <;> simp [hf]
  rw [List.find?_map, hnames]

theorem value?_put_self (r : Fields V) (name : String) (v : V) :
    (r.put name v).value? name = some v := by
  rw [value?, put, putField]
  split
  · rename_i hany
    obtain ⟨f, hf⟩ := Option.isSome_iff_exists.mp (List.find?_isSome.mpr (List.any_eq_true.mp hany))
    have hname : f.1 = name := by simpa using List.find?_some hf
    rw [find?_replaced, hf]
    simp [hname]
  · rename_i hany
    have hnone : r.entries.find? (fun f => f.1 == name) = none := by
      rw [List.find?_eq_none]
      exact fun f hf hname => hany (List.any_eq_true.mpr ⟨f, hf, hname⟩)
    rw [List.find?_append, hnone]
    simp

theorem value?_put_of_ne (r : Fields V) {name other : String} (h : other ≠ name) (v : V) :
    (r.put name v).value? other = r.value? other := by
  rw [value?, put, putField]
  split
  · rw [find?_replaced, value?]
    cases hf : r.entries.find? fun f => f.1 == other with
    | none => rfl
    | some f =>
      have hname : f.1 = other := by simpa using List.find?_some hf
      have hother : f.1 ≠ name := hname ▸ h
      simp [hother]
  · rw [List.find?_append, value?]
    simp [Ne.symm h]

theorem withDefault_put (r : Fields V) (name : String) (v : V) (other : String) (a : α)
    (read : V → Option α) :
    (r.put name v).withDefault other a read =
      if other = name then read v else r.withDefault other a read := by
  by_cases h : other = name
  · rw [if_pos h, withDefault, h, value?_put_self]
  · rw [if_neg h, withDefault, value?_put_of_ne r h, withDefault]

theorem ofNamed?_putField {names : List String} {entries : List (String × V)} {r : Fields V}
    (h : ofNamed? names entries = some r) (name : String) (v : V) :
    ofNamed? names (putField name v entries) = some (r.put name v) := by
  obtain ⟨hnodup, rfl⟩ := ofNamed?_eq_some_iff.mp h
  refine ofNamed?_eq_some_iff.mpr ⟨?_, rfl⟩
  rw [names_putField]
  split
  · exact hnodup
  · rename_i hnew
    rw [List.filter_append, List.nodup_append]
    refine ⟨hnodup, List.Nodup.filter _ (List.nodup_singleton name), ?_⟩
    rintro n hn m hm rfl
    obtain rfl := List.mem_singleton.mp (List.mem_of_mem_filter hm)
    exact hnew (List.mem_of_mem_filter hn)

end Fields

end Letterbox
