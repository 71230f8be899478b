import Letterbox.Proofs.Mailbox.Run

namespace Letterbox

namespace Tables

/-- How the tables of a mailbox agree: a message has its row and its payload, links are between what
there is, and the vocabulary holds names in normal form, one for each key. -/
structure Consistent (t : Tables) : Prop where
  ids_distinct : (t.messages.map Row.id).Nodup
  payload_exists : ∀ id, (∃ r ∈ t.messages, r.id = id) ↔ (t.payloads.map Prod.fst).count id = 1
  payload_ids_distinct : (t.payloads.map Prod.fst).Nodup
  link_refers : ∀ l ∈ t.links,
    (∃ r ∈ t.messages, r.id = l.1) ∧ ∃ g ∈ t.tags, g.number = l.2
  links_distinct : t.links.Nodup
  tag_normal : ∀ g ∈ t.tags,
    g.name ≠ "" ∧ Tag.collapsed g.name = g.name ∧ g.key = Tag.key g.name
  keys_distinct : (t.tags.map TagRow.key).Nodup

theorem Sound.consistent {t : Tables} (ht : t.Sound) : t.Consistent := by
  obtain ⟨htagged, hshelved⟩ := ht
  have hids := hshelved.payload_ids
  constructor
  case ids_distinct => exact hshelved.ids_nodup
  case payload_exists =>
    intro id
    rw [hids, ← List.mem_map]
    constructor
    · intro hmem
      exact List.count_eq_one_of_mem hshelved.ids_nodup hmem
    · intro hcount
      exact List.count_pos_iff.mp (by omega)
  case payload_ids_distinct => exact hids ▸ hshelved.ids_nodup
  case link_refers =>
    intro l hl
    exact ⟨List.mem_map.mp (htagged.links_message l hl), List.mem_map.mp (htagged.links_tag l hl)⟩
  case links_distinct => exact htagged.links_nodup
  case tag_normal =>
    intro g hg
    obtain ⟨⟨hne, hcollapsed⟩, hkey⟩ := htagged.normal g hg
    exact ⟨hne, hcollapsed, hkey⟩
  case keys_distinct => exact htagged.keys_nodup

end Tables

namespace Mailbox

theorem consistent_run {config : Config} {webhook : Bool} {start : Instant} {m : Mailbox}
    (hopen : open? config {} webhook start = .ok m) (requests : List Request) :
    (m.run requests).tables.Consistent := by
  obtain ⟨htables, hclosed, -⟩ := open?_cases hopen
  have hsound : m.tables.Sound := htables ▸ Tables.sound_empty
  exact ((leadsTo_run hclosed requests).changes.sound hsound).consistent

theorem consistent_run_store_and_delete :
    open? {} {} false ⟨0, 0⟩ = .ok { config := {}, rules := ⟨[]⟩ } ∧
      (run { config := {}, rules := ⟨[]⟩ }
        [⟨⟨1, 0⟩, .store "a" [70, 58, 32, 120, 10, 10], by decide⟩,
         ⟨⟨2, 0⟩, .setTags "a" [" x  y "], by decide⟩,
         ⟨⟨3, 0⟩, .deleteMany ["a", "b"], by decide⟩]).tables.Consistent :=
  have hopen : open? {} {} false ⟨0, 0⟩ = .ok { config := {}, rules := ⟨[]⟩ } := rfl
  ⟨hopen, consistent_run hopen _⟩

end Mailbox

end Letterbox
