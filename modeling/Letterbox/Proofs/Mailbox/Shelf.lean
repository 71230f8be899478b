import Letterbox.Mailbox.Delivery
import Letterbox.Mailbox.Upkeep
import Letterbox.Proofs.Envelope.Parse
import Letterbox.Proofs.Mailbox.Encoding
import Letterbox.Proofs.Text.Case
import Letterbox.Proofs.Zstd.PlainFrame
import Mathlib.Data.List.Forall2

namespace Letterbox

def Row.Describes (r : Row) (p : String × Bytes) : Prop :=
  ∃ raw e created, Envelope.parse raw = .ok e ∧ Instant.isDated created = true ∧
    p = (r.id, Zstd.compress raw) ∧ r = { Mailbox.rowOf r.id created raw e with read := r.read }

namespace Row.Describes

variable {r : Row} {p : String × Bytes}

theorem fst (h : r.Describes p) : p.1 = r.id := by
  obtain ⟨raw, e, created, -, -, rfl, -⟩ := h
  rfl

theorem setRead (h : r.Describes p) (read : Bool) : { r with read := read }.Describes p := by
  obtain ⟨raw, e, created, hparse, hdated, hp, hr⟩ := h
  exact ⟨raw, e, created, hparse, hdated, hp, congrArg (fun s : Row => { s with read := read }) hr⟩

theorem snippet (h : r.Describes p) : r.snippet.isNone = false := by
  obtain ⟨raw, e, created, -, -, -, hr⟩ := h
  rw [hr]
  rfl

theorem metadata (h : r.Describes p) : ∃ parties : Parties, r.metadata = .json parties.toJson := by
  obtain ⟨raw, e, created, -, -, -, hr⟩ := h
  refine ⟨Parties.ofEnvelope e, ?_⟩
  rw [hr]
  simp only [Mailbox.rowOf, Document.ofText, Parties.parse?_render]

theorem lowerAscii_searchText (h : r.Describes p) :
    Text.lowerAscii r.searchText.toList = r.searchText.toList := by
  obtain ⟨raw, e, created, -, -, -, hr⟩ := h
  have hsearch : r.searchText = e.searchText := by rw [hr]; rfl
  rw [hsearch, Envelope.searchText, String.toList_ofList, Text.lowerAscii_lower]

theorem millis_createdAt (h : r.Describes p) : r.createdAt.millis = r.created := by
  obtain ⟨raw, e, created, -, hdated, -, hr⟩ := h
  have hcreated : r.created = created.millis := by rw [hr]; rfl
  have hseconds := Instant.seconds_ofMillis_millis hdated
  simp only [Instant.isDated, Bool.and_eq_true, decide_eq_true_eq] at hdated
  have hrange : (decide (Instant.firstSecond ≤ created.seconds) &&
      decide (created.seconds ≤ Instant.lastSecond)) = true := by
    simpa using hdated.1
  rw [Row.createdAt, hcreated, hseconds, if_pos hrange, Instant.millis_ofMillis]

end Row.Describes

section Side

variable {rows : List Row} {payloads : List (String × Bytes)}

theorem ids_of_describes (h : List.Forall₂ Row.Describes rows payloads) :
    payloads.map Prod.fst = rows.map Row.id := by
  induction h with
  | nil => rfl
  | cons hrp _ ih => rw [List.map_cons, List.map_cons, hrp.fst, ih]

theorem find?_of_describes (h : List.Forall₂ Row.Describes rows payloads) {id : String} {r : Row}
    (hr : rows.find? (fun r => r.id == id) = some r) :
    ∃ p, payloads.find? (fun p => p.1 == id) = some p ∧ r.Describes p := by
  induction h with
  | nil => simp at hr
  | @cons s p rows payloads hsp _ ih =>
    rw [List.find?_cons] at hr ⊢
    rw [hsp.fst]
    split at hr
    · cases hr
      exact ⟨p, rfl, hsp⟩
    · exact ih hr

theorem mem_of_describes (h : List.Forall₂ Row.Describes rows payloads) {r : Row}
    (hr : r ∈ rows) : ∃ p ∈ payloads, r.Describes p := by
  induction h with
  | nil => simp at hr
  | @cons s p rows payloads hsp _ ih =>
    rcases List.mem_cons.mp hr with rfl | hr
    · exact ⟨p, by simp, hsp⟩
    · obtain ⟨q, hq, hdescribes⟩ := ih hr
      exact ⟨q, by simp [hq], hdescribes⟩

theorem filter_of_describes (h : List.Forall₂ Row.Describes rows payloads)
    (keep : String → Bool) :
    List.Forall₂ Row.Describes (rows.filter fun r => keep r.id)
      (payloads.filter fun p => keep p.1) := by
  induction h with
  | nil => exact .nil
  | @cons r p rows payloads hrp _ ih =>
    rw [List.filter_cons, List.filter_cons, hrp.fst]
    split
    · exact .cons hrp ih
    · exact ih

end Side

namespace Tables

structure Shelved (t : Tables) : Prop where
  described : List.Forall₂ Row.Describes t.messages t.payloads
  ids_nodup : (t.messages.map Row.id).Nodup

theorem shelved_empty : Shelved {} where
  described := .nil
  ids_nodup := .nil

theorem row?_eq_none {t : Tables} {id : String} :
    t.row? id = none ↔ id ∉ t.messages.map Row.id := by
  simp [row?, List.find?_eq_none]

theorem payload?_eq_none {t : Tables} {id : String} :
    t.payload? id = none ↔ id ∉ t.payloads.map Prod.fst := by
  simp only [payload?, Option.map_eq_none_iff, List.find?_eq_none, beq_iff_eq, List.mem_map,
    not_exists, not_and]

theorem mem_of_row? {t : Tables} {id : String} {r : Row} (h : t.row? id = some r) :
    r ∈ t.messages ∧ r.id = id :=
  ⟨List.mem_of_find?_eq_some h, by simpa using List.find?_some h⟩

theorem not_mem_of_isTaken {t : Tables} {id : String} (h : t.isTaken id = false) :
    id ∉ t.messages.map Row.id := by
  simp only [isTaken, Bool.or_eq_false_iff, Option.isSome_eq_false_iff,
    Option.isNone_iff_eq_none] at h
  exact row?_eq_none.mp h.1

theorem fillPreviews_eq_self {t : Tables} (h : ∀ r ∈ t.messages, r.snippet.isNone = false) :
    t.fillPreviews = t := by
  have hsame : (t.messages.map fun r =>
      if r.snippet.isNone then { r with snippet := some (t.previewOf r.id) } else r) =
      t.messages := by
    refine (List.map_congr_left ?_).trans (List.map_id _)
    intro r hr
    simp only [h r hr, Bool.false_eq_true, if_false, id]
  rw [fillPreviews, hsame]

namespace Shelved

variable {t t' : Tables}

theorem payload_ids (ht : t.Shelved) : t.payloads.map Prod.fst = t.messages.map Row.id :=
  ids_of_describes ht.described

theorem payload?_of_row? (ht : t.Shelved) {id : String} {r : Row} (h : t.row? id = some r) :
    ∃ p, t.payload? id = some p.2 ∧ r.Describes p := by
  obtain ⟨p, hp, hrp⟩ := find?_of_describes ht.described h
  exact ⟨p, by rw [payload?, hp]; rfl, hrp⟩

theorem payload?_of_mem (ht : t.Shelved) {id : String} {frame : Bytes}
    (h : (id, frame) ∈ t.payloads) : t.payload? id = some frame := by
  have hnodup : (t.payloads.map Prod.fst).Nodup := ht.payload_ids ▸ ht.ids_nodup
  cases hfind : t.payloads.find? fun p => p.1 == id with
  | none =>
    have hnot := List.find?_eq_none.mp hfind (id, frame) h
    simp at hnot
  | some p =>
    have hkey : p.1 = (id, frame).1 := by simpa using List.find?_some hfind
    have heq := List.inj_on_of_nodup_map hnodup (List.mem_of_find?_eq_some hfind) h hkey
    rw [payload?, hfind, heq]
    rfl

theorem row_of_payload (ht : t.Shelved) {p : String × Bytes} (h : p ∈ t.payloads) :
    ∃ r, t.row? p.1 = some r := by
  have hmem : p.1 ∈ t.messages.map Row.id := ht.payload_ids ▸ List.mem_map_of_mem h
  cases hrow : t.row? p.1 with
  | none => exact absurd hmem (row?_eq_none.mp hrow)
  | some r => exact ⟨r, rfl⟩

theorem row?_of_mem (ht : t.Shelved) {r : Row} (hr : r ∈ t.messages) :
    t.row? r.id = some r := by
  cases hrow : t.row? r.id with
  | none => exact absurd (List.mem_map_of_mem hr) (row?_eq_none.mp hrow)
  | some r' =>
    obtain ⟨hr', hid⟩ := mem_of_row? hrow
    rw [List.inj_on_of_nodup_map ht.ids_nodup hr' hr hid]

theorem map_messages (ht : t.Shelved) {f : Row → Row}
    (hf : ∀ r p, r.Describes p → (f r).Describes p) (hid : ∀ r, (f r).id = r.id)
    (hmessages : t'.messages = t.messages.map f) (hpayloads : t'.payloads = t.payloads) :
    t'.Shelved where
  described := by
    rw [hmessages, hpayloads, List.forall₂_map_left_iff]
    exact ht.described.imp hf
  ids_nodup := by
    have hids : (t.messages.map f).map Row.id = t.messages.map Row.id := by
      simp [List.map_map, Function.comp_def, hid]
    rw [hmessages, hids]
    exact ht.ids_nodup

theorem of_messages (ht : t.Shelved) (hmessages : t'.messages = t.messages)
    (hpayloads : t'.payloads = t.payloads) : t'.Shelved where
  described := by rw [hmessages, hpayloads]; exact ht.described
  ids_nodup := by rw [hmessages]; exact ht.ids_nodup

theorem insert (ht : t.Shelved) {id : String} {raw : Bytes} {e : Envelope} {created : Instant}
    (hnew : t.isTaken id = false) (hparse : Envelope.parse raw = .ok e)
    (hdated : created.isDated = true) :
    (t.insert (Mailbox.rowOf id created raw e) (Zstd.compress raw)).Shelved where
  described := .cons ⟨raw, e, created, hparse, hdated, rfl, rfl⟩ ht.described
  ids_nodup := List.nodup_cons.mpr ⟨not_mem_of_isTaken hnew, ht.ids_nodup⟩

theorem remove (ht : t.Shelved) (ids : List String) : (t.remove ids).Shelved where
  described := filter_of_describes ht.described fun id => !ids.contains id
  ids_nodup := ht.ids_nodup.sublist (List.filter_sublist.map _)

theorem setRead (ht : t.Shelved) (id : String) (read : Bool) : (t.setRead id read).Shelved := by
  refine ht.map_messages (f := fun r => if r.id == id then { r with read := read } else r) ?_ ?_
    rfl rfl
  · intro r p hrp
    split
    · exact hrp.setRead read
    · exact hrp
  · intro r
    split <;> rfl

theorem setAllRead (ht : t.Shelved) (read : Bool) : (t.setAllRead read).2.Shelved :=
  ht.map_messages (fun _ _ hrp => hrp.setRead read) (fun _ => rfl) rfl rfl

theorem isNone_snippet (ht : t.Shelved) {r : Row} (hr : r ∈ t.messages) :
    r.snippet.isNone = false := by
  obtain ⟨p, -, hrp⟩ := mem_of_describes ht.described hr
  exact hrp.snippet

theorem fillPreviews_eq (ht : t.Shelved) : t.fillPreviews = t :=
  fillPreviews_eq_self fun _ hr => ht.isNone_snippet hr

end Shelved

end Tables

end Letterbox
