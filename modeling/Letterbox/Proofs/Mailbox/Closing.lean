import Letterbox.Proofs.Mailbox.Failure

namespace Letterbox

inductive Act where
  | request (r : Request)
  | shutdown

namespace Mailbox

def act (m : Mailbox) : Act → Mailbox
  | .request r => m.after r
  | .shutdown => m.shutdown

def runActs (m : Mailbox) (acts : List Act) : Mailbox :=
  acts.foldl act m

theorem unmoved_shutdown (m : Mailbox) : m.Unmoved m.shutdown :=
  ⟨rfl, rfl, rfl, rfl, rfl⟩

section Closed

variable {m : Mailbox} (hclosed : m.closed = true)

include hclosed

theorem closed_act (a : Act) : (m.act a).closed = true := by
  cases a with
  | request r => exact (closed_perform r.operation).trans hclosed
  | shutdown => rfl

theorem unmoved_act (a : Act) : m.Unmoved (m.act a) := by
  cases a with
  | request r => exact unmoved_of_closed hclosed r.now r.operation
  | shutdown => exact unmoved_shutdown m

theorem unmoved_runActs (acts : List Act) : m.Unmoved (m.runActs acts) := by
  induction acts generalizing m with
  | nil => exact .refl m
  | cons a acts ih => exact (unmoved_act hclosed a).trans (ih (closed_act hclosed a))

end Closed

theorem config_act (m : Mailbox) (a : Act) : (m.act a).config = m.config := by
  cases a with
  | request r => exact config_perform r.operation
  | shutdown => rfl

theorem config_runActs (m : Mailbox) (acts : List Act) : (m.runActs acts).config = m.config := by
  induction acts generalizing m with
  | nil => rfl
  | cons a acts ih => exact (ih (m.act a)).trans (config_act m a)

theorem config_of_open? {config : Config} {t : Tables} {webhook : Bool} {start : Instant}
    {m : Mailbox} (h : open? config t webhook start = .ok m) : m.config = config := by
  unfold open? at h
  split at h <;> cases h
  rfl

theorem reopen?_of_kept {m : Mailbox} (hkept : m.config.keepsTables = true) (now : Instant)
    {config : Config} {rules : TagRules} (h : TagRules.ofConfig? config.tagRules = .ok rules) :
    ∃ m', m.reopen? now config = .ok m' ∧ m'.tables = m.tables := by
  simp only [reopen?, hkept, if_true, open?, h]
  exact ⟨_, rfl, rfl⟩

theorem closing_keeps {t : Tables} {config : Config} {webhook : Bool} {start : Instant}
    {m : Mailbox} (hopen : open? config t webhook start = .ok m)
    (hkept : config.keepsTables = true) (requests : List Request) (acts : List Act) :
    (m.run requests).Unmoved ((m.run requests).shutdown.runActs acts) ∧
      ∀ (now : Instant) (again : Config) (rules : TagRules),
        TagRules.ofConfig? again.tagRules = .ok rules →
          ∃ m', ((m.run requests).shutdown.runActs acts).reopen? now again = .ok m' ∧
            m'.tables = (m.run requests).tables := by
  have hacts := unmoved_runActs (m := (m.run requests).shutdown) rfl acts
  have hunmoved := (unmoved_shutdown (m.run requests)).trans hacts
  refine ⟨hunmoved, ?_⟩
  intro now again rules hrules
  have hconfig : ((m.run requests).shutdown.runActs acts).config = config := by
    rw [config_runActs]
    exact (config_run requests).trans (config_of_open? hopen)
  rw [← hunmoved.tables]
  exact reopen?_of_kept (hconfig ▸ hkept) now hrules

theorem closing_keeps_stored :
    let config : Config := { storage := { dataFile := some "mail.db" } }
    let m := run { config, rules := ⟨[]⟩ }
      [⟨⟨1, 0⟩, .store "a" [70, 58, 32, 120, 10, 10], by decide⟩]
    let closed := m.shutdown.runActs
      [.request ⟨⟨2, 0⟩, .deleteAll, by decide⟩, .shutdown,
       .request ⟨⟨3, 0⟩, .startBackground, by decide⟩]
    open? config {} false ⟨0, 0⟩ = .ok { config, rules := ⟨[]⟩ } ∧ m.Unmoved closed ∧
      ∃ m', closed.reopen? ⟨4, 0⟩ config = .ok m' ∧ m'.tables = m.tables :=
  have hopen : open? { storage := { dataFile := some "mail.db" } } {} false ⟨0, 0⟩ =
      .ok { config := { storage := { dataFile := some "mail.db" } }, rules := ⟨[]⟩ } := rfl
  have hkeeps := closing_keeps hopen (by decide)
    [⟨⟨1, 0⟩, .store "a" [70, 58, 32, 120, 10, 10], by decide⟩]
    [.request ⟨⟨2, 0⟩, .deleteAll, by decide⟩, .shutdown,
     .request ⟨⟨3, 0⟩, .startBackground, by decide⟩]
  ⟨hopen, hkeeps.1, hkeeps.2 ⟨4, 0⟩ { storage := { dataFile := some "mail.db" } } ⟨[]⟩ rfl⟩

end Mailbox

end Letterbox
