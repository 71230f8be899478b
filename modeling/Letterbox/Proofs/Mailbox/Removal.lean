import Letterbox.Mailbox.Removal

namespace Letterbox

theorem flatten_chunks (ids : List String) : (chunks ids).flatten = ids := by
  induction ids using chunks.induct with
  | case1 => simp [chunks]
  | case2 id ids ih =>
    rw [chunks, List.flatten_cons, ih]
    exact List.take_append_drop chunkLength (id :: ids)

namespace Removal

def ofRows (rows : List Row) : Removal :=
  { count := rows.length, bytes := Tables.bytesOf rows }

theorem add_assoc (a b c : Removal) : (a.add b).add c = a.add (b.add c) := by
  simp only [add, Nat.add_assoc, UInt64.add_assoc]

theorem add_comm (a b : Removal) : a.add b = b.add a := by
  simp only [add, Nat.add_comm, UInt64.add_comm]

theorem add_left_comm (a b c : Removal) : a.add (b.add c) = b.add (a.add c) := by
  rw [← add_assoc, ← add_assoc, add_comm a b]

theorem foldl_size (rows : List Row) (n : UInt64) :
    rows.foldl (fun n r => n + r.size) n = n + Tables.bytesOf rows := by
  induction rows generalizing n with
  | nil => simp [Tables.bytesOf]
  | cons r rows ih =>
    have hfirst := ih (n + r.size)
    have hrest := ih (0 + r.size)
    rw [Tables.bytesOf, List.foldl_cons, List.foldl_cons, hfirst, hrest, UInt64.zero_add,
      UInt64.add_assoc]

theorem ofRows_cons (r : Row) (rows : List Row) :
    ofRows (r :: rows) = Removal.add { count := 1, bytes := r.size } (ofRows rows) := by
  have hbytes : Tables.bytesOf (r :: rows) = r.size + Tables.bytesOf rows := by
    rw [Tables.bytesOf, List.foldl_cons, foldl_size, UInt64.zero_add]
  simp only [ofRows, add, hbytes, List.length_cons, Nat.add_comm]

theorem ofRows_filter (rows : List Row) (p q : Row → Bool) :
    (ofRows (rows.filter p)).add (ofRows (rows.filter fun r => q r && !p r)) =
      ofRows (rows.filter fun r => p r || q r) := by
  induction rows with
  | nil => rfl
  | cons r rows ih =>
    cases hp : p r with
    | true => simp [hp, ofRows_cons, add_assoc, ih]
    | false =>
      cases hq : q r with
      | true => simp [hp, hq, ofRows_cons, add_left_comm, ih]
      | false => simp [hp, hq, ih]

end Removal

namespace Tables

theorem remove_remove (t : Tables) (ids others : List String) :
    (t.remove ids).remove others = t.remove (ids ++ others) := by
  simp only [remove, List.filter_filter, List.contains_append, Bool.not_or, Bool.and_comm]

theorem rowsOf_nil (t : Tables) : t.rowsOf [] = [] :=
  List.filter_eq_nil_iff.mpr (by simp)

theorem remove_nil (t : Tables) : t.remove [] = t := by
  have hall (α : Type) (l : List α) : l.filter (fun _ => true) = l :=
    List.filter_eq_self.mpr (by simp)
  simp only [remove, List.contains_nil, Bool.not_false, hall]

theorem removeChunks_eq (t : Tables) (cs : List (List String)) :
    t.removeChunks cs = (Removal.ofRows (t.rowsOf cs.flatten), t.remove cs.flatten) := by
  induction cs generalizing t with
  | nil =>
    rw [List.flatten_nil, rowsOf_nil, remove_nil]
    rfl
  | cons ids cs ih =>
    have hrows := Removal.ofRows_filter t.messages (fun r => ids.contains r.id)
      (fun r => cs.flatten.contains r.id)
    simp only [removeChunks, removeChunk, ih, remove_remove, List.flatten_cons]
    simp only [rowsOf, remove, List.filter_filter, List.contains_append, ← hrows]
    rfl

theorem removeChunks_chunks (t : Tables) (ids : List String) :
    t.removeChunks (chunks ids) = (Removal.ofRows (t.rowsOf ids), t.remove ids) := by
  rw [removeChunks_eq, flatten_chunks]

theorem stats_remove_of_rowsOf {t : Tables} {ids : List String} (h : t.rowsOf ids = []) :
    (t.remove ids).stats = t.stats := by
  have hsame : (t.messages.filter fun r => !ids.contains r.id) = t.messages := by
    refine List.filter_eq_self.mpr ?_
    intro r hr
    have hnot := List.filter_eq_nil_iff.mp h r hr
    simpa using hnot
  simp only [stats, remove, hsame]
  rfl

end Tables

end Letterbox
