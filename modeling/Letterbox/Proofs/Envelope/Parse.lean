import Letterbox.Envelope.Parse
import Letterbox.Proofs.Time.Instant

namespace Letterbox.Envelope

def withoutParts (e : Envelope) : Envelope :=
  { e with inlines := [], otherParts := [], attachments := [] }

theorem addPart_withoutParts (e : Envelope) (p : Part) :
    (addPart e p).withoutParts = e.withoutParts := by
  unfold addPart
  split
  · rfl
  · split
    · rfl
    · split <;> rfl

theorem foldl_addPart_withoutParts (parts : List Part) (e : Envelope) :
    (parts.foldl addPart e).withoutParts = e.withoutParts := by
  induction parts generalizing e with
  | nil => rfl
  | cons p parts ih => exact (ih (addPart e p)).trans (addPart_withoutParts e p)

section Message

variable (m : Mime.Message) (headers : List Header.Field)

theorem ofMessage_date : (ofMessage m headers).date = dateOf m :=
  congrArg Envelope.date (foldl_addPart_withoutParts (partsOf m) _)

theorem ofMessage_html : (ofMessage m headers).html = htmlOf m :=
  congrArg Envelope.html (foldl_addPart_withoutParts (partsOf m) _)

theorem ofMessage_text : (ofMessage m headers).text =
    if Text.allBlank (textOf m).toList && !(htmlOf m).isEmpty then Html.toText (htmlOf m)
    else textOf m :=
  congrArg Envelope.text (foldl_addPart_withoutParts (partsOf m) _)

end Message

theorem parse_cases {raw : Bytes} {e : Envelope} (h : parse raw = .ok e) :
    ∃ m, Mime.Message.read? raw = some m ∧ e = ofMessage m (Header.read raw) := by
  simp only [parse] at h
  split at h
  · cases h
  · split at h
    · cases h
    · rename_i m hm
      cases h
      exact ⟨m, hm, rfl⟩

theorem isDated_of_parse {raw : Bytes} {e : Envelope} {d : Instant} (h : parse raw = .ok e)
    (hd : e.date = some d) : d.isDated = true := by
  obtain ⟨m, -, rfl⟩ := parse_cases h
  have hdate : dateOf m = some d := (ofMessage_date m _).symm.trans hd
  obtain ⟨t, -, ht⟩ := Option.bind_eq_some_iff.mp hdate
  exact Instant.isDated_of_ofSeconds? ht

end Letterbox.Envelope
