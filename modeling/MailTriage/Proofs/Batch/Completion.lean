import MailTriage.Proofs.Batch.Operations
import MailTriage.Proofs.Label.Creation

namespace MailTriage.Batch

variable {c : Config} {items : List (Nat × Action)} {groups : List (String × List Nat)}
  {places : List Nat} {b : Mailbox}

theorem addLabels_eq_none_iff :
    (addLabels groups b).2 = none ↔ ∀ g ∈ groups, ¬ Label.Rootless b.known g.1 := by
  induction groups generalizing b with
  | nil => simp [addLabels]
  | cons g groups ih =>
    rw [List.forall_mem_cons, addLabels]
    cases h : b.ensureLabel g.1 with
    | error e =>
      have hroot : Label.Rootless b.known g.1 := Mailbox.ensureLabel_eq_error_iff.1 ⟨e, h⟩
      exact iff_of_false (by simp) fun hall => hall.1 hroot
    | ok r =>
      have hroot : ¬ Label.Rootless b.known g.1 := by
        rw [← Mailbox.ensureLabel_eq_error_iff, h]
        simp
      -- The labels created on the way do not change which of the others have a root.
      have hknown (n : String) : Label.Rootless (r.2.perform (.addLabel r.1) g.2).known n ↔
          Label.Rootless b.known n := Mailbox.rootless_ensureLabel h n
      simp only [ih, hknown, hroot, not_false_eq_true, true_and]

theorem markDone_eq_none (hdone : ∀ known, ¬ Label.Rootless known c.processedLabel) :
    (markDone c places b).2 = none := by
  rw [markDone]
  cases h : b.ensureLabel c.processedLabel with
  | error e => exact absurd (Mailbox.ensureLabel_eq_error_iff.1 ⟨e, h⟩) (hdone _)
  | ok r => rfl

/-- A batch gets through just where no action asks for a label without a root. -/
theorem apply_eq_none_iff (hdone : ∀ known, ¬ Label.Rootless known c.processedLabel) :
    (apply c items b).2 = none ↔ ∀ i ∈ items, ∀ name ∈ i.2.labels, ¬ Label.Rootless b.known name := by
  have hgroups : (∀ g ∈ (Plan.ofActions items).labels, ¬ Label.Rootless b.known g.1) ↔
      ∀ i ∈ items, ∀ name ∈ i.2.labels, ¬ Label.Rootless b.known name := by
    constructor
    · intro h i hi name hname
      exact h _ (Plan.mem_labels_ofActions.2 ⟨⟨i, hi, hname⟩, rfl⟩)
    · intro h g hg
      obtain ⟨⟨i, hi, hname⟩, -⟩ := Plan.mem_labels_ofActions.1 hg
      exact h i hi g.1 hname
  rw [← hgroups, ← addLabels_eq_none_iff]
  obtain ⟨b₁, e, hb, happly⟩ | ⟨b₁, hb, ⟨-, happly⟩ | ⟨-, happly⟩⟩ := apply_cases c items b
  · rw [hb, happly]
  · rw [hb, happly]
  · rw [hb, happly, markDone_eq_none hdone]

end MailTriage.Batch
