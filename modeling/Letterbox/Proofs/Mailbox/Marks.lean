import Letterbox.Proofs.Mailbox.Editing
import Letterbox.Proofs.Mailbox.Retrieval

namespace Letterbox

namespace Tables

variable {t : Tables} {id : String} {read : Bool}

theorem isRead?_of_row? {r : Row} (h : t.row? id = some r) : t.isRead? id = .ok r.read := by
  simp only [isRead?, existing?, h, Except.map]

theorem isRead?_setRead_of_ne {other : String} (hne : other ≠ id) :
    (t.setRead id read).isRead? other = t.isRead? other := by
  have hrow := row?_edit_of_ne hne t (.setRead read)
  rw [edit_setRead] at hrow
  simp only [isRead?, existing?, hrow]

theorem setRead_eq_self (h : ∀ r ∈ t.messages, r.id = id → r.read = read) :
    t.setRead id read = t := by
  have hsame : (t.messages.map fun r => if r.id == id then { r with read } else r) =
      t.messages := by
    refine (List.map_congr_left ?_).trans (List.map_id _)
    intro r hr
    split
    · rename_i hid
      rw [← h r hr (eq_of_beq hid)]
      rfl
    · rfl
  rw [setRead, editRow, hsame]

theorem setRead_setRead (first : Bool) :
    (t.setRead id first).setRead id read = t.setRead id read := by
  simp only [setRead, editRow, List.map_map]
  congr 1
  refine List.map_congr_left ?_
  intro r _
  by_cases hid : r.id = id <;> simp [hid]

theorem foldl_setRead (t : Tables) (ids : List String) (read : Bool) :
    ids.foldl (fun t id => t.setRead id read) t =
      { t with messages := t.messages.map fun r =>
          if ids.contains r.id then { r with read } else r } := by
  induction ids generalizing t with
  | nil => simp
  | cons id ids ih =>
    rw [List.foldl_cons, ih, setRead, editRow, List.map_map]
    congr 1
    refine List.map_congr_left ?_
    intro r _
    by_cases hid : r.id = id <;> simp [hid]

theorem foldl_setRead_all {ids : List String} (h : ∀ r ∈ t.messages, r.id ∈ ids) :
    ids.foldl (fun t id => t.setRead id read) t = (t.setAllRead read).2 := by
  rw [foldl_setRead, setAllRead]
  congr 1
  refine List.map_congr_left ?_
  intro r hr
  rw [if_pos (List.contains_iff_mem.mpr (h r hr))]

theorem setAllRead_eq_self (h : (t.setAllRead read).1 = 0) : (t.setAllRead read).2 = t := by
  have hsame : (t.messages.map fun r => { r with read }) = t.messages := by
    refine (List.map_congr_left ?_).trans (List.map_id _)
    intro r hr
    have hflag := List.filter_eq_nil_iff.mp (List.length_eq_zero_iff.mp h) r hr
    simp only [bne_iff_ne, ne_eq, not_not] at hflag
    rw [← hflag, id]
  rw [setAllRead, hsame]

namespace Shelved

variable (ht : t.Shelved) {r : Row}

include ht

theorem read_eq (hrow : t.row? id = some r) : ∀ s ∈ t.messages, s.id = id → s.read = r.read := by
  intro s hs hid
  obtain rfl := Option.some.inj ((ht.row?_of_mem hs).symm.trans (hid ▸ hrow))
  rfl

theorem isRead?_of_mem (hr : r ∈ t.messages) : t.isRead? r.id = .ok r.read :=
  isRead?_of_row? (ht.row?_of_mem hr)

end Shelved

end Tables

namespace Mailbox

def markEach (m : Mailbox) (read : Bool) :
    List (Instant × String) → List (Except MailError Bool) × Mailbox
  | [] => ([], m)
  | (now, id) :: calls =>
    let (answer, m) := m.mark now id read
    let (answers, m) := m.markEach read calls
    (answer :: answers, m)

section Open

variable {m : Mailbox} (hopen : m.closed = false)

include hopen

theorem mark_of_row (now : Instant) {id : String} {r : Row} (hrow : m.tables.row? id = some r)
    (read : Bool) : m.mark now id read = if r.read == read then (.ok false, m.touch now)
      else (.ok true, (m.touch now).putRead now id read) := by
  rw [mark, ask_touch hopen, Tables.isRead?_of_row? hrow]

theorem mark_of_none (now : Instant) {id : String} (hrow : m.tables.row? id = none) (read : Bool) :
    m.mark now id read = (.error (.noMessage id), m.touch now) := by
  have hfails : m.tables.isRead? id = .error (.noMessage id) := by
    simp only [Tables.isRead?, Tables.existing?, hrow, Except.map]
  rw [mark, ask_touch hopen, hfails]

theorem answer_mark (now : Instant) (id : String) (read : Bool) :
    (m.mark now id read).1 = (m.tables.isRead? id).map (· != read) := by
  rw [mark, ask_touch hopen]
  cases m.tables.isRead? id with
  | error why => rfl
  | ok was => cases was <;> cases read <;> rfl

theorem tables_mark (ht : m.tables.Shelved) (now : Instant) (id : String) (read : Bool) :
    (m.mark now id read).2.tables = m.tables.setRead id read := by
  rcases mark_cases hopen now id read with ⟨hnone, heq⟩ | ⟨r, hrow, heq⟩ <;> rw [heq]
  · refine (Tables.setRead_eq_self ?_).symm
    intro r hr hid
    exact absurd (hid ▸ List.mem_map_of_mem hr) (Tables.row?_eq_none.mp hnone)
  · split
    · rename_i hsame
      refine (Tables.setRead_eq_self ?_).symm
      intro s hs hid
      rw [ht.read_eq hrow s hs hid, eq_of_beq hsame]
    · exact putRead_tables _ now id read

theorem notices_mark (now : Instant) {id : String} {r : Row} (hrow : m.tables.row? id = some r)
    (read : Bool) : (m.mark now id read).2.notices = m.notices ++
      if r.read = read then [] else [.event (.stats (m.mark now id read).2.tables.stats)] := by
  rw [mark_of_row hopen now hrow]
  by_cases hsame : r.read = read
  · rw [if_pos (by simpa using hsame), if_pos hsame, List.append_nil, touch_notices]
  · rw [if_neg (by simpa using hsame), if_neg hsame, putRead_tables]
    exact announceStats_notices
      (m := { m.touch now with tables := m.tables.setRead id read }) hopen now

theorem tables_markEach (ht : m.tables.Shelved) (read : Bool) (calls : List (Instant × String)) :
    (m.markEach read calls).2.tables =
      (calls.map Prod.snd).foldl (fun t id => t.setRead id read) m.tables := by
  induction calls generalizing m with
  | nil => rfl
  | cons call calls ih =>
    obtain ⟨now, id⟩ := call
    have htables := tables_mark hopen ht now id read
    have hshelved := htables ▸ ht.setRead id read
    rw [markEach, List.map_cons, List.foldl_cons,
      ih ((leadsTo_mark hopen now id read).closed.trans hopen) hshelved, htables]

theorem answers_markEach (ht : m.tables.Shelved) (read : Bool) {calls : List (Instant × String)}
    (hids : (calls.map Prod.snd).Nodup) :
    (m.markEach read calls).1 = calls.map fun call => (m.mark call.1 call.2 read).1 := by
  induction calls generalizing m with
  | nil => rfl
  | cons call calls ih =>
    obtain ⟨now, id⟩ := call
    rw [List.map_cons, List.nodup_cons] at hids
    have htables := tables_mark hopen ht now id read
    have hshelved := htables ▸ ht.setRead id read
    have hopen' := (leadsTo_mark hopen now id read).closed.trans hopen
    have hrest := ih hopen' hshelved hids.2
    refine congrArg (List.cons _) (hrest.trans (List.map_congr_left ?_))
    intro call hcall
    have hne : call.2 ≠ id := fun heq => hids.1 (List.mem_map.mpr ⟨call, hcall, heq⟩)
    rw [answer_mark hopen', answer_mark hopen, htables, Tables.isRead?_setRead_of_ne hne]

theorem answer_markAll (now : Instant) (read : Bool) :
    (m.markAll now read).1 = .ok (m.tables.setAllRead read).1.toUInt64 := by
  rw [markAll_of_open hopen]

theorem tables_markAll (now : Instant) (read : Bool) :
    (m.markAll now read).2.tables = (m.tables.setAllRead read).2 := by
  rw [markAll_of_open hopen]
  by_cases hnone : (m.tables.setAllRead read).1 = 0
  · rw [if_neg (by omega), Tables.setAllRead_eq_self hnone, touch_tables]
  · rw [if_pos (by omega), announceStats_tables]

theorem notices_markAll (now : Instant) (read : Bool) :
    (m.markAll now read).2.notices = m.notices ++ if (m.tables.setAllRead read).1 = 0 then []
      else [.event (.stats (m.markAll now read).2.tables.stats)] := by
  rw [tables_markAll hopen, markAll_of_open hopen]
  by_cases hnone : (m.tables.setAllRead read).1 = 0
  · rw [if_neg (by omega), if_pos hnone, List.append_nil, touch_notices]
  · rw [if_pos (by omega), if_neg hnone]
    exact announceStats_notices
      (m := { m.touch now with tables := (m.tables.setAllRead read).2 }) hopen now

theorem message_snd (ht : m.tables.Shelved) (now : Instant) (id : String) :
    (m.message now id).2 = (m.mark now id true).2 := by
  rcases message_cases hopen now id with ⟨why, hfail, heq⟩ | ⟨msg, r, -, hrow, heq⟩
  · -- a message that there is can be read
    have hnone : m.tables.row? id = none := by
      cases hrow : m.tables.row? id with
      | none => rfl
      | some r =>
        obtain ⟨-, e, -, -, -, hok, -⟩ := contents_of_row? ht hrow
        rw [hok] at hfail
        cases hfail
    rw [heq, mark_of_none hopen now hnone]
  · rw [heq, mark_of_row hopen now hrow]
    cases r.read <;> rfl

end Open

structure MarksOne (m : Mailbox) (now : Instant) (r : Row) (read : Bool) : Prop where
  answer : (m.mark now r.id read).1 = .ok (r.read != read)
  tables : (m.mark now r.id read).2.tables = { m.tables with
    messages := m.tables.messages.map fun s => if s.id == r.id then { s with read } else s }
  told : (m.mark now r.id read).2.notices = m.notices ++
    if r.read = read then [] else [.event (.stats (m.mark now r.id read).2.tables.stats)]
  restores : ∀ later, ((m.mark now r.id read).2.mark later r.id r.read).2.tables = m.tables

structure MarksTogether (m : Mailbox) (now : Instant) (read : Bool)
    (calls : List (Instant × String)) : Prop where
  alone : (m.markEach read calls).1 = calls.map fun call => (m.mark call.1 call.2 read).1
  answer : (m.markAll now read).1 = .ok ((m.markEach read calls).1.count (.ok true)).toUInt64
  tables : (m.markAll now read).2.tables = (m.markEach read calls).2.tables
  told : (m.markAll now read).2.notices = m.notices ++
    if (m.markEach read calls).1.count (.ok true) = 0 then []
    else [.event (.stats (m.markAll now read).2.tables.stats)]

section Open

variable {m : Mailbox} (hopen : m.closed = false) (ht : m.tables.Shelved)

include hopen ht

theorem marksOne_of_mem (now : Instant) {r : Row} (hr : r ∈ m.tables.messages) (read : Bool) :
    m.MarksOne now r read := by
  have htables := tables_mark hopen ht now r.id read
  constructor
  case answer => rw [answer_mark hopen, ht.isRead?_of_mem hr, Except.map]
  case tables => exact htables
  case told => exact notices_mark hopen now (ht.row?_of_mem hr) read
  case restores =>
    intro later
    have hopen' := (leadsTo_mark hopen now r.id read).closed.trans hopen
    rw [tables_mark hopen' (htables ▸ ht.setRead r.id read), htables, Tables.setRead_setRead]
    exact Tables.setRead_eq_self (ht.read_eq (ht.row?_of_mem hr))

theorem count_markEach (read : Bool) {calls : List (Instant × String)}
    (hcalls : (calls.map Prod.snd).Perm (m.tables.messages.map Row.id)) :
    (m.markEach read calls).1.count (.ok true) = (m.tables.setAllRead read).1 := by
  have hids : (calls.map Prod.snd).Nodup := hcalls.nodup_iff.mpr ht.ids_nodup
  have hanswers : (m.markEach read calls).1 =
      (calls.map Prod.snd).map fun id => (m.tables.isRead? id).map (· != read) := by
    rw [answers_markEach hopen ht read hids, List.map_map]
    exact List.map_congr_left fun call _ => answer_mark hopen call.1 call.2 read
  have hflags : ((m.tables.messages.map Row.id).map fun id =>
      (m.tables.isRead? id).map (· != read)) =
      m.tables.messages.map fun r => Except.ok (r.read != read) := by
    rw [List.map_map]
    refine List.map_congr_left ?_
    intro r hr
    rw [Function.comp_apply, ht.isRead?_of_mem hr, Except.map]
  rw [hanswers, (hcalls.map _).count_eq, hflags, Tables.setAllRead, ← List.countP_eq_length_filter,
    List.count_eq_countP, List.countP_map]
  congr 1
  funext r
  rw [Function.comp_apply]
  cases r.read != read <;> rfl

theorem marksTogether_of_perm (now : Instant) (read : Bool) {calls : List (Instant × String)}
    (hcalls : (calls.map Prod.snd).Perm (m.tables.messages.map Row.id)) :
    m.MarksTogether now read calls := by
  have hcount := count_markEach hopen ht read hcalls
  constructor
  case alone => exact answers_markEach hopen ht read (hcalls.nodup_iff.mpr ht.ids_nodup)
  case answer => rw [hcount, answer_markAll hopen]
  case tables =>
    rw [tables_markAll hopen, tables_markEach hopen ht, Tables.foldl_setRead_all]
    intro r hr
    exact hcalls.mem_iff.mpr (List.mem_map_of_mem hr)
  case told => rw [hcount, notices_markAll hopen]

end Open

theorem mark_run {t : Tables} (ht : t.Reached) {config : Config} {webhook : Bool}
    {start : Instant} {m : Mailbox} (hopen : open? config t webhook start = .ok m)
    (requests : List Request) (now : Instant) (read : Bool) :
    let s := m.run requests
    (∀ calls : List (Instant × String),
      (calls.map Prod.snd).Perm (s.tables.messages.map Row.id) → s.MarksTogether now read calls) ∧
    (∀ r ∈ s.tables.messages, s.MarksOne now r read) ∧
    ∀ id, (s.message now id).2 = (s.mark now id true).2 := by
  intro s
  have hclosed : s.closed = false := closed_run hopen requests
  have hshelved : s.tables.Shelved := (Tables.Reached.session ht hopen requests).sound.shelved
  refine ⟨?_, ?_, ?_⟩
  · intro calls hcalls
    exact marksTogether_of_perm hclosed hshelved now read hcalls
  · intro r hr
    exact marksOne_of_mem hclosed hshelved now hr read
  · exact message_snd hclosed hshelved now

theorem mark_run_stored :
    let s := ({ config := {}, rules := ⟨[]⟩ } : Mailbox).run
      [⟨⟨1, 0⟩, .store "a" [70, 58, 32, 120, 10, 10], by decide⟩,
       ⟨⟨2, 0⟩, .store "b" [70, 58, 32, 121, 10, 10], by decide⟩,
       ⟨⟨3, 0⟩, .message "a", by decide⟩]
    (s.MarksTogether ⟨4, 0⟩ true [(⟨4, 0⟩, "a"), (⟨5, 0⟩, "b")] ∧
      (s.markAll ⟨4, 0⟩ true).1 = .ok 1) ∧
    (s.tables.messages.map (fun r => (r.id, r.read)) = [("b", false), ("a", true)] ∧
      ∀ r ∈ s.tables.messages, s.MarksOne ⟨4, 0⟩ r true ∧
        (s.mark ⟨4, 0⟩ r.id true).1 = .ok (r.read != true) ∧
        ((s.mark ⟨4, 0⟩ r.id true).2.mark ⟨5, 0⟩ r.id r.read).2.tables = s.tables) ∧
    (s.message ⟨4, 0⟩ "b").2 = (s.mark ⟨4, 0⟩ "b" true).2 ∧
      (s.message ⟨4, 0⟩ "b").2.tables.messages.map (fun r => r.read) = [true, true] := by
  intro s
  have hopen : open? {} {} false ⟨0, 0⟩ = .ok { config := {}, rules := ⟨[]⟩ } := rfl
  obtain ⟨htogether, hone, hmessage⟩ := mark_run .empty hopen
    [⟨⟨1, 0⟩, .store "a" [70, 58, 32, 120, 10, 10], by decide⟩,
     ⟨⟨2, 0⟩, .store "b" [70, 58, 32, 121, 10, 10], by decide⟩,
     ⟨⟨3, 0⟩, .message "a", by decide⟩] ⟨4, 0⟩ true
  refine ⟨⟨htogether _ (by decide +kernel), by decide +kernel⟩, ⟨by decide +kernel, ?_⟩, ?_⟩
  · intro r hr
    have hmarks := hone r hr
    exact ⟨hmarks, hmarks.answer, hmarks.restores ⟨5, 0⟩⟩
  · exact ⟨hmessage "b", by decide +kernel⟩

end Mailbox

end Letterbox
