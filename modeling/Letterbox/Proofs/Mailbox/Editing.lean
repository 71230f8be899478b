import Letterbox.Proofs.Mailbox.Shelf

namespace Letterbox

inductive Edit where
  | keep
  | setRead (read : Bool)
  | untag
  | remove (size : UInt64)
  deriving DecidableEq

namespace Edit

def row? : Edit → Row → Option Row
  | .keep, r => some r
  | .setRead read, r => some { r with read }
  | .untag, r => some r
  | .remove _, _ => none

def rowAt? (id : String) (e : Edit) (r : Row) : Option Row :=
  if r.id == id then e.row? r else some r

def keepsPayload : Edit → Bool
  | .remove _ => false
  | _ => true

def keepsLinks : Edit → Bool
  | .untag => false
  | .remove _ => false
  | _ => true

def removal : Edit → Removal
  | .remove size => { count := 1, bytes := size }
  | _ => {}

variable {a b id : String} {e f : Edit} {r r' : Row}

theorem row?_id (h : e.row? r = some r') : r'.id = r.id := by
  cases e <;> cases h <;> rfl

theorem rowAt?_id (h : e.rowAt? id r = some r') : r'.id = r.id := by
  rw [rowAt?] at h
  split at h
  · exact row?_id h
  · exact congrArg Row.id (Option.some.inj h).symm

theorem rowAt?_of_row? (id : String) {f : Row → Row} (h : ∀ r, e.row? r = some (f r)) :
    e.rowAt? id = some ∘ fun r => if r.id == id then f r else r := by
  funext r
  rw [rowAt?, h, Function.comp_apply]
  split <;> rfl

theorem rowAt?_of_ne (hne : r.id ≠ id) : e.rowAt? id r = some r :=
  if_neg (by simpa using hne)

theorem bind_rowAt?_of_ne (hne : r.id ≠ b) :
    (e.rowAt? a r).bind (f.rowAt? b) = (f.rowAt? b r).bind (e.rowAt? a) := by
  rw [rowAt?_of_ne hne, Option.bind_some]
  cases hrow : e.rowAt? a r with
  | none => rfl
  | some r' => exact rowAt?_of_ne (rowAt?_id hrow ▸ hne)

theorem bind_rowAt?_comm (hne : a ≠ b) (e f : Edit) (r : Row) :
    (e.rowAt? a r).bind (f.rowAt? b) = (f.rowAt? b r).bind (e.rowAt? a) := by
  -- the row can be that of one of the two messages only
  by_cases hb : r.id = b
  · have ha : r.id ≠ a := fun ha => hne (ha.symm.trans hb)
    exact (bind_rowAt?_of_ne ha).symm
  · exact bind_rowAt?_of_ne hb

end Edit

namespace Tables

structure Entry where
  row : Option Row
  payload : Option Bytes
  tags : List String

def entry (t : Tables) (id : String) : Entry :=
  { row := t.row? id, payload := t.payload? id, tags := t.tagsOf id }

def edit (t : Tables) (id : String) (e : Edit) : Tables :=
  { t with
    messages := t.messages.filterMap (e.rowAt? id)
    payloads := t.payloads.filter fun p => e.keepsPayload || p.1 != id
    links := t.links.filter fun l => e.keepsLinks || l.1 != id }

section Forms

variable (t : Tables) (id : String)

theorem edit_keep : t.edit id .keep = t := by
  have hrow := Edit.rowAt?_of_row? (e := .keep) id fun _ => rfl
  simp [edit, hrow, Edit.keepsPayload, Edit.keepsLinks]

theorem edit_setRead (read : Bool) : t.edit id (.setRead read) = t.setRead id read := by
  have hrow := Edit.rowAt?_of_row? (e := .setRead read) id fun _ => rfl
  simp [edit, hrow, Edit.keepsPayload, Edit.keepsLinks, setRead, editRow]

theorem edit_untag : t.edit id .untag = t.untag id := by
  have hrow := Edit.rowAt?_of_row? (e := .untag) id fun _ => rfl
  simp [edit, hrow, Edit.keepsPayload, Edit.keepsLinks, untag]

theorem edit_remove (size : UInt64) : t.edit id (.remove size) = t.remove [id] := by
  have hrow : Edit.rowAt? id (.remove size) = Option.guard fun r : Row => !decide (r.id = id) := by
    funext r
    by_cases hid : r.id = id <;> simp [Edit.rowAt?, Edit.row?, Option.guard, hid]
  simp [edit, hrow, List.filterMap_eq_filter, Edit.keepsPayload, Edit.keepsLinks, remove, bne,
    beq_eq_decide]

end Forms

section Apart

variable {a b : String} (hne : a ≠ b)

include hne

theorem edit_comm (t : Tables) (e f : Edit) : (t.edit a e).edit b f = (t.edit b f).edit a e := by
  have hrows : (t.messages.filterMap (e.rowAt? a)).filterMap (f.rowAt? b) =
      (t.messages.filterMap (f.rowAt? b)).filterMap (e.rowAt? a) := by
    rw [List.filterMap_filterMap, List.filterMap_filterMap]
    exact List.filterMap_congr fun r _ => Edit.bind_rowAt?_comm hne e f r
  simp only [edit, hrows, List.filter_filter, Bool.and_comm]

theorem row?_edit_of_ne (t : Tables) (e : Edit) : (t.edit b e).row? a = t.row? a := by
  have htest (r : Row) : ((e.rowAt? b r).any fun s => s.id == a) = (r.id == a) := by
    by_cases hb : r.id = b
    · have ha : r.id ≠ a := fun ha => hne (ha.symm.trans hb)
      cases hrow : e.rowAt? b r with
      | none => simpa using ha
      | some s => rw [Option.any_some, Edit.rowAt?_id hrow]
    · rw [Edit.rowAt?_of_ne hb, Option.any_some]
  rw [row?, edit, List.find?_filterMap]
  simp only [htest]
  cases hfind : t.messages.find? fun r => r.id == a with
  | none => rw [row?, hfind]; rfl
  | some r =>
    have hid : r.id = a := (mem_of_row? hfind).2
    rw [row?, hfind, Option.bind_some, Edit.rowAt?_of_ne (hid ▸ hne)]

theorem payload?_edit_of_ne (t : Tables) (e : Edit) : (t.edit b e).payload? a = t.payload? a := by
  have hfind : (t.payloads.filter fun p => e.keepsPayload || p.1 != b).find? (fun p => p.1 == a) =
      t.payloads.find? fun p => p.1 == a := by
    rw [List.find?_filter]
    congr 1
    funext p
    by_cases ha : p.1 = a <;> simp [ha, hne]
  rw [payload?, edit, hfind, payload?]

theorem tagsOf_edit_of_ne (t : Tables) (e : Edit) : (t.edit b e).tagsOf a = t.tagsOf a := by
  have hcarries : (t.edit b e).carries a = t.carries a := by
    funext g
    have hkept : (e.keepsLinks || (a, g.number).1 != b) = true := by simp [hne]
    rw [Bool.eq_iff_iff, carries, carries, List.contains_iff_mem, List.contains_iff_mem, edit,
      List.mem_filter]
    exact and_iff_left hkept
  rw [tagsOf, hcarries]
  rfl

theorem entry_edit_of_ne (t : Tables) (e : Edit) : (t.edit b e).entry a = t.entry a := by
  rw [entry, row?_edit_of_ne hne, payload?_edit_of_ne hne, tagsOf_edit_of_ne hne, entry]

end Apart

end Tables

end Letterbox
