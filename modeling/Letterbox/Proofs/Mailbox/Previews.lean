import Letterbox.Proofs.Mailbox.Retrieval

namespace Letterbox

namespace Tables

variable {t : Tables} {id : String}

inductive Unreadable (t : Tables) (id : String) : Prop
  | missing (h : t.payload? id = none)
  | garbled {frame : Bytes} (hframe : t.payload? id = some frame)
      (h : Zstd.decompress? frame = none)
  | malformed {frame raw : Bytes} {why : Malformed} (hframe : t.payload? id = some frame)
      (hraw : Zstd.decompress? frame = some raw) (h : Envelope.parse raw = .error why)

theorem Unreadable.previewOf_eq (h : t.Unreadable id) : t.previewOf id = "" := by
  cases h with
  | missing h => simp only [previewOf, envelope?, raw?, h, Except.bind]
  | garbled hframe h => simp only [previewOf, envelope?, raw?, hframe, h, Except.bind]
  | malformed hframe hraw h => simp only [previewOf, envelope?, raw?, hframe, hraw, Except.bind, h]

theorem previewOf_congr {t' : Tables} (h : t'.payload? id = t.payload? id) :
    t'.previewOf id = t.previewOf id := by
  simp only [previewOf, envelope?, raw?, h]

theorem Shelved.snippet_eq (ht : t.Shelved) {r : Row} (hr : r ∈ t.messages) :
    r.snippet = some (t.previewOf r.id) := by
  obtain ⟨raw, e, created, hraw, hparse, -, hdigest⟩ :=
    Mailbox.contents_of_row? ht (ht.row?_of_mem hr)
  have henvelope : t.envelope? r.id = .ok e := by
    simp only [envelope?, hraw, Except.bind, hparse]
  have hpreview : t.previewOf r.id = e.snippet := by simp only [previewOf, henvelope]
  rw [hpreview, hdigest]
  rfl

def forgetPreviews (t : Tables) (chosen : Row → Bool) : Tables :=
  { t with messages := t.messages.map fun r => if chosen r then { r with snippet := none } else r }

structure Spoils (t : Tables) (chosen spoiled : Row → Bool) (payloads : List (String × Bytes)) :
    Prop where
  intact : ∀ r ∈ t.messages, chosen r = true → spoiled r = false →
    { t with payloads }.payload? r.id = t.payload? r.id
  unreadable : ∀ r ∈ t.messages, chosen r = true → spoiled r = true →
    { t with payloads }.Unreadable r.id

theorem spoils_none (t : Tables) (chosen : Row → Bool) :
    t.Spoils chosen (fun _ => false) t.payloads where
  intact _ _ _ _ := rfl
  unreadable _ _ _ hspoiled := by cases hspoiled

section Forget

variable (ht : t.Shelved) {chosen spoiled : Row → Bool} {payloads : List (String × Bytes)}

include ht

theorem Shelved.isNone_snippet_forget {r : Row} (hr : r ∈ t.messages) :
    (if chosen r then { r with snippet := none } else r).snippet.isNone = chosen r := by
  cases hchosen : chosen r with
  | false => simp [ht.snippet_eq hr]
  | true => rfl

theorem Shelved.length_forgotten :
    ((t.forgetPreviews chosen).messages.filter fun r => r.snippet.isNone).length =
      (t.messages.filter chosen).length := by
  rw [forgetPreviews, List.filter_map, List.length_map]
  exact congrArg List.length (List.filter_congr fun r hr => ht.isNone_snippet_forget hr)

theorem Shelved.fillPreviews_forget (h : t.Spoils chosen spoiled payloads) :
    { t.forgetPreviews chosen with payloads }.fillPreviews =
      { t with
        payloads
        messages := t.messages.map fun r =>
          if chosen r && spoiled r then { r with snippet := some "" } else r } := by
  rw [fillPreviews, forgetPreviews, List.map_map]
  congr 1
  refine List.map_congr_left ?_
  intro r hr
  rw [Function.comp_apply, ht.isNone_snippet_forget hr]
  cases hchosen : chosen r with
  | false => rfl
  | true =>
    cases hspoiled : spoiled r with
    | false =>
      -- the preview is made of what it was made of when the message came in
      have hpreview : { t.forgetPreviews chosen with payloads }.previewOf r.id = t.previewOf r.id :=
        previewOf_congr (h.intact r hr hchosen hspoiled)
      have hsame : { r with snippet := some (t.previewOf r.id) } = r := by rw [← ht.snippet_eq hr]
      exact (congrArg (fun s => { r with snippet := some s }) hpreview).trans hsame
    | true =>
      have hpreview : { t.forgetPreviews chosen with payloads }.previewOf r.id = "" :=
        (h.unreadable r hr hchosen hspoiled).previewOf_eq
      exact congrArg (fun s => { r with snippet := some s }) hpreview

theorem Shelved.fillPreviews_forget_self : (t.forgetPreviews chosen).fillPreviews = t := by
  have hfill := ht.fillPreviews_forget (t.spoils_none chosen)
  simp only [Bool.and_false, Bool.false_eq_true, if_false, List.map_id'] at hfill
  exact hfill

end Forget

theorem isNone_snippet_fillPreviews (t : Tables) :
    ∀ r ∈ t.fillPreviews.messages, r.snippet.isNone = false := by
  intro r hr
  obtain ⟨s, -, rfl⟩ := List.mem_map.mp hr
  cases hsnippet : s.snippet.isNone with
  | false => rw [if_neg Bool.false_ne_true, hsnippet]
  | true => rfl

end Tables

namespace Mailbox

section Open

variable {m : Mailbox} (hopen : m.closed = false)

include hopen

theorem backfill_of_complete (h : ∀ r ∈ m.tables.messages, r.snippet.isNone = false) :
    m.backfill = (.ok 0, m) := by
  have hnone : (m.tables.messages.filter fun r => r.snippet.isNone) = [] := by
    refine List.filter_eq_nil_iff.mpr ?_
    intro r hr
    simp [h r hr]
  rw [backfill_of_open hopen, hnone, Tables.fillPreviews_eq_self h]
  rfl

theorem backfill_backfill : m.backfill.2.backfill = (.ok 0, m.backfill.2) := by
  have hfilled : m.backfill.2 = { m with tables := m.tables.fillPreviews } := by
    rw [backfill_of_open hopen]
  rw [hfilled]
  exact backfill_of_complete hopen m.tables.isNone_snippet_fillPreviews

end Open

theorem backfill_run {t : Tables} (ht : t.Reached) {config : Config} {webhook : Bool}
    {start : Instant} {m : Mailbox} (hopen : open? config t webhook start = .ok m)
    (requests : List Request) (chosen : Row → Bool) :
    let s := m.run requests
    let count := (s.tables.messages.filter chosen).length.toUInt64
    { s with tables := s.tables.forgetPreviews chosen }.backfill = (.ok count, s) ∧
      s.backfill = (.ok 0, s) ∧
      ∀ spoiled payloads, s.tables.Spoils chosen spoiled payloads →
        let before := { s with tables := { s.tables.forgetPreviews chosen with payloads } }
        let after := { s with tables := { s.tables with
          payloads
          messages := s.tables.messages.map fun r =>
            if chosen r && spoiled r then { r with snippet := some "" } else r } }
        before.backfill = (.ok count, after) ∧ after.backfill = (.ok 0, after) := by
  intro s count
  have hclosed : s.closed = false := closed_run hopen requests
  have hshelved : s.tables.Shelved := (Tables.Reached.session ht hopen requests).sound.shelved
  refine ⟨?_, backfill_of_complete hclosed fun r hr => hshelved.isNone_snippet hr, ?_⟩
  · rw [backfill_of_open (m := { s with tables := s.tables.forgetPreviews chosen }) hclosed,
      hshelved.length_forgotten, hshelved.fillPreviews_forget_self]
  · intro spoiled payloads hspoils before after
    have hfirst : before.backfill = (.ok count, after) := by
      rw [backfill_of_open (m := before) hclosed, hshelved.fillPreviews_forget hspoils]
      exact congrArg (fun n : Nat => (Except.ok n.toUInt64, after)) hshelved.length_forgotten
    have hsecond := backfill_backfill (m := before) hclosed
    rw [hfirst] at hsecond
    exact ⟨hfirst, hsecond⟩

theorem backfill_run_spoiled :
    let raw := Text.encode "F: x\n\nhello".toList
    let s := ({ config := {}, rules := ⟨[]⟩ } : Mailbox).run
      [⟨⟨1, 0⟩, .store "a" raw, by decide⟩, ⟨⟨2, 0⟩, .store "b" raw, by decide⟩]
    let payloads := [("b", [1, 2, 3]), ("a", Zstd.compress raw)]
    let before := { s with tables := { s.tables.forgetPreviews fun _ => true with payloads } }
    s.tables.Spoils (fun _ => true) (fun r => r.id == "b") payloads ∧ before.backfill.1 = .ok 2 ∧
      before.backfill.2.tables.messages.map Row.snippet = [some "", some "hello"] := by
  intro raw s payloads before
  have hopen : open? {} {} false ⟨0, 0⟩ = .ok { config := {}, rules := ⟨[]⟩ } := rfl
  have hspoils : s.tables.Spoils (fun _ => true) (fun r => r.id == "b") payloads := by
    constructor
    case intact => decide +kernel
    case unreadable =>
      intro r _ _ hid
      have hframe : { s.tables with payloads }.payload? "b" = some [1, 2, 3] := by decide +kernel
      rw [eq_of_beq hid]
      exact .garbled hframe (by decide +kernel)
  obtain ⟨-, -, hfilled⟩ := backfill_run .empty hopen
    [⟨⟨1, 0⟩, .store "a" raw, by decide⟩, ⟨⟨2, 0⟩, .store "b" raw, by decide⟩] fun _ => true
  obtain ⟨hfirst, -⟩ := hfilled (fun r => r.id == "b") payloads hspoils
  rw [hfirst]
  exact ⟨hspoils, by decide +kernel, by decide +kernel⟩

end Mailbox

end Letterbox
