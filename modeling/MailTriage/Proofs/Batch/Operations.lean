import MailTriage.Proofs.Batch.Plan
import MailTriage.Proofs.Label.Creation
import MailTriage.Batch.Apply

/-!
A batch is a list of operations on groups of threads. A thread sees only those whose group it is in, in
the same order, and labels are created without a change to any thread.
-/

namespace MailTriage.Store

variable {op : Operation} {ops : List (Operation × List Nat)} {places : List Nat}
  {threads : List Thread} {p : Nat}

theorem length_afterOperation : (afterOperation op places threads).length = threads.length := by
  induction places generalizing threads with
  | nil => rfl
  | cons q places ih => exact ih.trans (List.length_modify _ _ _)

theorem getElem?_afterOperation (hd : places.Nodup) : (afterOperation op places threads)[p]? =
    if p ∈ places then (threads[p]?).map op.onThread else threads[p]? := by
  induction places generalizing threads with
  | nil => rfl
  | cons q places ih =>
    rw [List.nodup_cons] at hd
    have h : afterOperation op (q :: places) threads =
        afterOperation op places (threads.modify q op.onThread) := rfl
    rw [h, ih hd.2, List.getElem?_modify]
    by_cases hq : q = p
    · -- Here `hd` counts: a place that came again would get the operation twice.
      subst hq
      simp [hd.1]
    · simp [hq, Ne.symm hq]

/-- The threads after operations on groups of them. -/
def afterOperations (ops : List (Operation × List Nat)) (threads : List Thread) : List Thread :=
  ops.foldl (fun ts o => afterOperation o.1 o.2 ts) threads

def opsAt (p : Nat) (ops : List (Operation × List Nat)) : List Operation :=
  (ops.filter (p ∈ ·.2)).map (·.1)

theorem length_afterOperations : (afterOperations ops threads).length = threads.length := by
  induction ops generalizing threads with
  | nil => rfl
  | cons o ops ih => exact ih.trans length_afterOperation

/-- A thread is left by the operations on groups of threads as by those that are done to it. -/
theorem getElem?_afterOperations (hd : ∀ o ∈ ops, o.2.Nodup) : (afterOperations ops threads)[p]? =
    (threads[p]?).map fun t => (opsAt p ops).foldl (fun t op => op.onThread t) t := by
  induction ops generalizing threads with
  | nil => simp [afterOperations, opsAt]
  | cons o ops ih =>
    rw [List.forall_mem_cons] at hd
    have h : afterOperations (o :: ops) threads =
        afterOperations ops (afterOperation o.1 o.2 threads) := rfl
    rw [h, ih hd.2, getElem?_afterOperation hd.1]
    by_cases hp : p ∈ o.2
    · simp [opsAt, hp, Function.comp_def]
    · simp [opsAt, hp]

@[simp] theorem opsAt_append {ops' : List (Operation × List Nat)} :
    opsAt p (ops ++ ops') = opsAt p ops ++ opsAt p ops' := by
  simp [opsAt]

end MailTriage.Store

namespace MailTriage.Mailbox

variable {b b' : Mailbox} {name s : String}

theorem ensureLabel_eq_ok (h : b.ensureLabel name = .ok (s, b')) :
    s = trimmed name ∧ b'.store.threads = b.store.threads := by
  unfold ensureLabel at h
  split at h
  · cases h
    exact ⟨rfl, threads_foldl_create _⟩
  · cases h

end MailTriage.Mailbox

namespace MailTriage.Batch

open Store

variable {c : Config} {items : List (Nat × Action)} {groups : List (String × List Nat)}
  {places : List Nat} {b b' : Mailbox}

def labelOperations (groups : List (String × List Nat)) : List (Operation × List Nat) :=
  groups.map fun g => (.addLabel (trimmed g.1), g.2)

theorem threads_addLabels (h : addLabels groups b = (b', none)) :
    b'.store.threads = afterOperations (labelOperations groups) b.store.threads := by
  induction groups generalizing b with
  | nil =>
    cases h
    rfl
  | cons g groups ih =>
    unfold addLabels at h
    split at h
    · next s b₁ hb =>
      obtain ⟨rfl, hthreads⟩ := Mailbox.ensureLabel_eq_ok hb
      rw [ih h]
      show afterOperations _ (afterOperation _ g.2 b₁.store.threads) = _
      rw [hthreads]
      rfl
    · cases h

theorem threads_performAll (ops : List (Operation × List Nat)) :
    (performAll ops b).store.threads = afterOperations ops b.store.threads := by
  induction ops generalizing b with
  | nil => rfl
  | cons o ops ih => exact ih

def doneOperations (c : Config) (places : List Nat) : List (Operation × List Nat) :=
  [(.addLabel (trimmed c.processedLabel), places), (.removeLabel c.unprocessedLabel, places)]

theorem threads_markDone (h : markDone c places b = (b', none)) :
    b'.store.threads = afterOperations (doneOperations c places) b.store.threads := by
  unfold markDone at h
  split at h
  · next s b₁ hb =>
    obtain ⟨rfl, hthreads⟩ := Mailbox.ensureLabel_eq_ok hb
    cases h
    show afterOperation _ places (afterOperation _ places b₁.store.threads) = _
    rw [hthreads]
    rfl
  · cases h

def allOperations (c : Config) (items : List (Nat × Action)) : List (Operation × List Nat) :=
  labelOperations (Plan.ofActions items).labels ++ (Plan.ofActions items).operations ++
    doneOperations c (items.map (·.1))

theorem afterOperations_append (ops ops' : List (Operation × List Nat)) (threads : List Thread) :
    afterOperations (ops ++ ops') threads = afterOperations ops' (afterOperations ops threads) :=
  List.foldl_append

/-- A batch stops at a label without a name, or adds all labels and does what is left; a batch of no
threads is not marked as done. -/
theorem apply_cases (c : Config) (items : List (Nat × Action)) (b : Mailbox) :
    (∃ b₁ e, addLabels (Plan.ofActions items).labels b = (b₁, some e) ∧
      apply c items b = (b₁, some e)) ∨
    ∃ b₁, addLabels (Plan.ofActions items).labels b = (b₁, none) ∧
      ((items = [] ∧ apply c items b = (performAll (Plan.ofActions items).operations b₁, none)) ∨
        (items ≠ [] ∧ apply c items b =
          markDone c (items.map (·.1)) (performAll (Plan.ofActions items).operations b₁))) := by
  obtain ⟨b₁, e, hb⟩ : ∃ b₁ e, addLabels (Plan.ofActions items).labels b = (b₁, e) := ⟨_, _, rfl⟩
  simp only [apply, hb]
  cases e with
  | some e => exact .inl ⟨b₁, e, rfl, rfl⟩
  | none =>
    refine .inr ⟨b₁, rfl, ?_⟩
    cases items with
    | nil => exact .inl ⟨rfl, rfl⟩
    | cons i items => exact .inr ⟨List.cons_ne_nil i items, rfl⟩

/-- A batch that gets through does all its operations, in this order. -/
theorem threads_apply (h : apply c items b = (b', none)) :
    b'.store.threads = afterOperations (allOperations c items) b.store.threads := by
  obtain ⟨b₁, e, -, happly⟩ | ⟨b₁, hb, hrest⟩ := apply_cases c items b
  · rw [happly] at h
    cases h
  · rw [allOperations, afterOperations_append, afterOperations_append, ← threads_addLabels hb,
      ← threads_performAll]
    obtain ⟨rfl, happly⟩ | ⟨-, happly⟩ := hrest
    · rw [happly] at h
      cases h
      rfl
    · rw [happly] at h
      exact threads_markDone h

end MailTriage.Batch
