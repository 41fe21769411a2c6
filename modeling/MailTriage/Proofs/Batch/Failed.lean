import MailTriage.Proofs.Batch.Preview
import MailTriage.Proofs.Unmatched

namespace MailTriage

namespace Action

variable {a : Action} {label name : String}

theorem mem_labels_failed : name ∈ (a.failed label).labels ↔ name = label := by
  simp [failed]

theorem onState_failed (h : a.IsIdle) (label : String) (s : ThreadState) :
    (a.failed label).onState s = { s with inInbox := true, inTrash := false } := by
  simp only [failed, onState, h.important, h.read]

end Action

namespace Batch

/-- A thread before and after a run in which it failed. -/
structure PutAside (c : Config) (t u : Thread) : Prop where
  id : u.id = t.id
  messages : u.messages = t.messages
  labels : ∀ l, l ∈ u.labels ↔
    (l ∈ t.labels ∨ l = trimmed c.failedLabel ∨ l = c.processedLabel) ∧ l ≠ c.unprocessedLabel
  state : u.state = { t.state with inInbox := true, inTrash := false }

variable {s : Session} {start stop : Moment} {o : Options} {state : State} {p : Nat} {t : Thread}
  {x : PendingThread} {entries : List (String × Document)}

theorem isIdle_of_error (h : (settle s x).2.error.isSome) : (collected s x).IsIdle := by
  rw [settle_error, Bool.not_eq_true', ← Bool.not_eq_true, Action.hasEffect_iff, not_not] at h
  exact h

theorem settle_action_of_error (h : (settle s x).2.error.isSome) :
    (settle s x).1 = (collected s x).failed s.config.failedLabel := by
  rw [settle_error, Bool.not_eq_true'] at h
  rw [settle_action, if_neg (by simp [h])]

/-- A run that gets to its end puts each of its threads that failed into the inbox, under the label of failed
threads, and changes nothing else about it. -/
theorem putAside_of_failed (hc : Config.ofEntries entries = .ok s.config) (hdry : o.dryRun = false)
    (hthrough : gotThrough (run s start stop o state).2) (hp : p ∈ fetched s state)
    (ht : state.mailbox.store.threads[p]? = some t) (hone : t.labels.count s.config.unprocessedLabel ≤ 1)
    (hx : s.pending t = .ok x) (hfailed : (settle s x).2.error.isSome) :
    ∃ u, (run s start stop o state).1.mailbox.store.threads[p]? = some u ∧ PutAside s.config t u := by
  have hprocessed : trimmed s.config.processedLabel = s.config.processedLabel :=
    (Config.sound_of_ofEntries hc).processedLabel.trimmed
  obtain ⟨ps, hps, happly, -⟩ := exists_pending_of_gotThrough hdry hthrough
  obtain ⟨t', x', ht', hx', hu, hl⟩ := exists_settled hps happly hp
  cases ht.symm.trans ht'
  cases hx.symm.trans hx'
  rw [settle_action_of_error hfailed] at hu hl
  refine ⟨_, hu, rfl, rfl, fun l => ?_, Action.onState_failed (isIdle_of_error hfailed) _ _⟩
  have hcount : (labelsAt s.config (itemsOf s ps) p t.labels).count s.config.unprocessedLabel ≤ 1 :=
    count_labelsAt_le hone
  have hnames : (∃ name ∈ ((collected s x).failed s.config.failedLabel).labels, trimmed name = l) ↔
      l = trimmed s.config.failedLabel := by
    simp only [Action.mem_labels_failed, exists_eq_left, eq_comm]
  rw [Operation.mem_erase_of_count_le hcount, hl, hnames, hprocessed]

/-- An important thread in the trash, the message of which is from nobody that the rules know. -/
def strangeThread : Thread where
  id := "1"
  messages := [{ author := "b@x.com" }]
  labels := ["unprocessed", "x"]
  state := { important := true, inInbox := false, inTrash := true }

def strangeState : State where
  mailbox := .ofStore (.ofThreads [strangeThread] [])

theorem putAside_of_failed_in_trash :
    ∃ x, greetingSession.pending strangeThread = .ok x ∧ (settle greetingSession x).2.error.isSome ∧
      gotThrough (run greetingSession ⟨0, none⟩ ⟨5, none⟩ {} strangeState).2 ∧
      ∃ u, (run greetingSession ⟨0, none⟩ ⟨5, none⟩ {} strangeState).1.mailbox.store.threads[0]? = some u ∧
        PutAside {} strangeThread u := by
  have hc : Config.ofEntries [] = .ok greetingSession.config := by decide +kernel
  have hthrough : gotThrough (run greetingSession ⟨0, none⟩ ⟨5, none⟩ {} strangeState).2 := by
    decide +kernel
  obtain ⟨x, hx⟩ : ∃ x, greetingSession.pending strangeThread = .ok x := ⟨_, rfl⟩
  have hfailed : (settle greetingSession x).2.error.isSome := by
    cases hx
    decide +kernel
  exact ⟨x, hx, hfailed, hthrough,
    putAside_of_failed hc rfl hthrough (by decide +kernel) rfl (by decide) hx hfailed⟩

end Batch

end MailTriage
