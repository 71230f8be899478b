import Letterbox.Proofs.Mailbox.Shelf
import Letterbox.Proofs.Mailbox.Vocabulary
import Mathlib.Logic.Relation

namespace Letterbox.Tables

inductive Change : Tables → Tables → Prop
  | insert {t t' : Tables} {id : String} {raw : Bytes} {e : Envelope} {created : Instant}
      {names known : List String} (hnew : t.isTaken id = false)
      (hparse : Envelope.parse raw = .ok e) (hdated : created.isDated = true)
      (htags : (t.insert (Mailbox.rowOf id created raw e) (Zstd.compress raw)).replaceTags id
        names = .ok (known, t')) : Change t t'
  | setRead (t : Tables) (id : String) (read : Bool) : Change t (t.setRead id read)
  | setAllRead (t : Tables) (read : Bool) : Change t (t.setAllRead read).2
  | replaceTags {t t' : Tables} {id : String} {r : Row} {names known : List String}
      (hrow : t.row? id = some r) (htags : t.replaceTags id names = .ok (known, t')) : Change t t'
  | untag (t : Tables) (id : String) : Change t (t.untag id)
  | pruneTags (t : Tables) : Change t t.pruneTags
  | remove (t : Tables) (ids : List String) : Change t (t.remove ids)
  | clear (t : Tables) : Change t t.clear
  | fillPreviews (t : Tables) : Change t t.fillPreviews

abbrev Changes : Tables → Tables → Prop :=
  Relation.ReflTransGen Change

structure Sound (t : Tables) : Prop where
  tagged : t.Tagged
  shelved : t.Shelved

theorem sound_empty : Sound {} where
  tagged := tagged_empty
  shelved := shelved_empty

theorem setRead_ids (t : Tables) (id : String) (read : Bool) :
    (t.setRead id read).messages.map Row.id = t.messages.map Row.id := by
  simp only [setRead, editRow, List.map_map]
  refine List.map_congr_left ?_
  intro r _
  simp only [Function.comp_apply]
  split <;> rfl

theorem setAllRead_ids (t : Tables) (read : Bool) :
    (t.setAllRead read).2.messages.map Row.id = t.messages.map Row.id := by
  simp [setAllRead, Function.comp_def]

theorem fillPreviews_ids (t : Tables) :
    t.fillPreviews.messages.map Row.id = t.messages.map Row.id := by
  simp only [fillPreviews, List.map_map]
  refine List.map_congr_left ?_
  intro r _
  simp only [Function.comp_apply]
  split <;> rfl

theorem Change.sound {t t' : Tables} (h : Change t t') (ht : t.Sound) : t'.Sound := by
  obtain ⟨htagged, hshelved⟩ := ht
  cases h with
  | @insert _ id raw e created _ _ hnew hparse hdated htags =>
    have hrow := htagged.insert (Mailbox.rowOf id created raw e) (Zstd.compress raw)
    have hinsert := hshelved.insert hnew hparse hdated
    have hsame := replaceTags_messages htags
    exact ⟨hrow.replaceTags List.mem_cons_self htags, hinsert.of_messages hsame.1 hsame.2⟩
  | setRead id read =>
    exact ⟨htagged.of_messages (setRead_ids t id read) rfl rfl rfl, hshelved.setRead id read⟩
  | setAllRead read =>
    exact ⟨htagged.of_messages (setAllRead_ids t read) rfl rfl rfl, hshelved.setAllRead read⟩
  | @replaceTags _ id r _ _ hrow htags =>
    obtain ⟨hmem, rfl⟩ := mem_of_row? hrow
    have hsame := replaceTags_messages htags
    exact ⟨htagged.replaceTags (List.mem_map_of_mem hmem) htags,
      hshelved.of_messages hsame.1 hsame.2⟩
  | untag id => exact ⟨htagged.untag id, hshelved.of_messages rfl rfl⟩
  | pruneTags => exact ⟨htagged.pruneTags, hshelved.of_messages rfl rfl⟩
  | remove ids => exact ⟨htagged.remove ids, hshelved.remove ids⟩
  | clear => exact ⟨Tagged.clear t, shelved_empty.of_messages rfl rfl⟩
  | fillPreviews =>
    -- every row was stored with a preview
    rw [hshelved.fillPreviews_eq]
    exact ⟨htagged, hshelved⟩

theorem Changes.sound {t t' : Tables} (h : Changes t t') (ht : t.Sound) : t'.Sound := by
  induction h with
  | refl => exact ht
  | tail _ hchange ih => exact hchange.sound ih

end Letterbox.Tables
