import Letterbox.Proofs.Envelope.Exposure
import Letterbox.Proofs.Mailbox.Retrieval

namespace Letterbox

namespace Envelope

variable {e : Envelope} {p : Part}

theorem parts_ids {raw : Bytes} (h : parse raw = .ok e) : (e.parts.map Part.partId).Nodup := by
  obtain ⟨m, -, rfl⟩ := parse_cases h
  exact ((ofMessage_parts m _).map Part.partId).nodup_iff.mpr (partsOf_ids m)

theorem findPart_of_mem (h : (e.parts.map Part.partId).Nodup) (hp : p ∈ e.parts) :
    e.findPart p.partId = some p := by
  rw [findPart, ← List.head?_filter, Text.filter_eq_singleton h hp]
  rfl

end Envelope

theorem Message.exists_part_of_mem_partsOf {parts : List Part} {s : PartSummary}
    (h : s ∈ Message.partsOf parts) : ∃ p ∈ parts, PartSummary.ofPart p = s := by
  obtain ⟨p, hp, hs⟩ := List.mem_map.mp h
  exact ⟨p, List.mem_of_mem_filter hp, hs⟩

theorem Message.exists_part_of_listed {t : Tables} {r : Row} {e : Envelope} {s : PartSummary}
    (h : s ∈ (Message.ofEnvelope t r e).inlines ++ (Message.ofEnvelope t r e).attachments) :
    ∃ p ∈ e.parts, PartSummary.ofPart p = s := by
  rcases List.mem_append.mp h with h | h
  · obtain ⟨p, hp, hs⟩ := exists_part_of_mem_partsOf h
    exact ⟨p, by simp [Envelope.parts, hp], hs⟩
  · obtain ⟨p, hp, hs⟩ := exists_part_of_mem_partsOf h
    exact ⟨p, by simp [Envelope.parts, hp], hs⟩

theorem Tables.part?_of_mem {t : Tables} {id : String} {raw : Bytes} {e : Envelope}
    (hraw : t.raw? id = .ok raw) (hparse : Envelope.parse raw = .ok e) {p : Part}
    (hp : p ∈ e.parts) : t.part? id p.partId = .ok p := by
  have henvelope : t.envelope? id = .ok e := by
    simp only [Tables.envelope?, hraw, Except.bind, hparse]
  have hfound := Envelope.findPart_of_mem (Envelope.parts_ids hparse) hp
  simp only [Tables.part?, henvelope, Except.bind, hfound]

namespace Mailbox

variable {m : Mailbox} {id : String}

def GivesPart (m : Mailbox) (id : String) (s : PartSummary) : Prop :=
  ∀ now, ∃ p, (m.part now id s.partId).1 = .ok p ∧ PartSummary.ofPart p = s

theorem givesPart_of_mem (hopen : m.closed = false) {raw : Bytes} {e : Envelope}
    (hraw : m.tables.raw? id = .ok raw) (hparse : Envelope.parse raw = .ok e) {p : Part}
    (hp : p ∈ e.parts) : m.GivesPart id (PartSummary.ofPart p) := by
  intro now
  refine ⟨p, ?_, rfl⟩
  rw [part, look_of_open hopen]
  exact Tables.part?_of_mem hraw hparse hp

theorem raw?_message (hopen : m.closed = false) (now : Instant) (id other : String) :
    (m.message now id).2.tables.raw? other = m.tables.raw? other := by
  simp only [Tables.raw?, Tables.payload?, payloads_message hopen]

theorem message_givesParts (hopen : m.closed = false) (hsound : m.tables.Sound)
    (hid : (m.tables.row? id).isSome = true) (now : Instant) :
    ∃ msg, (m.message now id).1 = .ok msg ∧ ∀ s ∈ msg.inlines ++ msg.attachments,
      m.GivesPart id s ∧ (m.message now id).2.GivesPart id s := by
  obtain ⟨r, hrow⟩ := Option.isSome_iff_exists.mp hid
  obtain ⟨raw, e, -, hraw, hparse, hmessage, -⟩ := contents_of_row? hsound.shelved hrow
  have hopen' := (leadsTo_message hopen now id).closed.trans hopen
  have hraw' := (raw?_message hopen now id id).trans hraw
  refine ⟨Message.ofEnvelope m.tables r e, ?_, ?_⟩
  · rcases message_cases hopen now id with ⟨why, hfail, -⟩ | ⟨msg, _, hok, -, heq⟩
    · rw [hmessage] at hfail
      cases hfail
    · rw [hmessage, Except.ok.injEq] at hok
      rw [heq, hok]
  · intro s hs
    obtain ⟨p, hp, rfl⟩ := Message.exists_part_of_listed hs
    exact ⟨givesPart_of_mem hopen hraw hparse hp, givesPart_of_mem hopen' hraw' hparse hp⟩

theorem parts_run {t : Tables} (ht : t.Reached) {config : Config} {webhook : Bool}
    {start : Instant} {m : Mailbox} (hopen : open? config t webhook start = .ok m)
    (requests : List Request) :
    (∀ tree : Mime.Tree, (tree.leaves.map fun leaf => Mime.Tree.identifier leaf.1).Nodup) ∧
      (∀ raw e, Envelope.parse raw = .ok e → ∀ p ∈ e.parts, e.findPart p.partId = some p) ∧
      ∀ id, ((m.run requests).tables.row? id).isSome = true → ∀ now,
        ∃ msg, ((m.run requests).message now id).1 = .ok msg ∧
          ∀ s ∈ msg.inlines ++ msg.attachments, (m.run requests).GivesPart id s ∧
            ((m.run requests).message now id).2.GivesPart id s := by
  refine ⟨Mime.Tree.nodup_identifiers, ?_, ?_⟩
  · intro raw e hparse p hp
    exact Envelope.findPart_of_mem (Envelope.parts_ids hparse) hp
  · intro id hid now
    have hsound := (Tables.Reached.session ht hopen requests).sound
    exact message_givesParts (closed_run hopen requests) hsound hid now

theorem parts_run_attached :
    let raw : Bytes := Text.encode ("Content-Type: multipart/mixed; boundary=b\n\n--b\n\nx\n" ++
      "--b\nContent-Disposition: attachment; filename=f\n\ny\n--b--\n").toList
    let m := ({ config := {}, rules := ⟨[]⟩ } : Mailbox).run
      [⟨⟨1, 0⟩, .store "a" raw, by decide⟩]
    let s : PartSummary := ⟨"2", "f", "text/plain", "", 1⟩
    (m.message ⟨2, 0⟩ "a").1.toOption.map Message.attachments = some [s] ∧ m.GivesPart "a" s := by
  intro raw m s
  have hopen : open? {} {} false ⟨0, 0⟩ = .ok { config := {}, rules := ⟨[]⟩ } := rfl
  have hlisted : (m.message ⟨2, 0⟩ "a").1.toOption.map Message.attachments = some [s] := by
    decide +kernel
  obtain ⟨msg, hmsg, hparts⟩ := (parts_run .empty hopen [⟨⟨1, 0⟩, .store "a" raw, by decide⟩]).2.2
    "a" (by decide +kernel) ⟨2, 0⟩
  refine ⟨hlisted, (hparts s ?_).1⟩
  have hattachments : msg.attachments = [s] := by
    rw [hmsg] at hlisted
    exact Option.some.inj hlisted
  simp [hattachments]

end Mailbox

end Letterbox
