import MailTriage.Proofs.Batch.Steps

/-!
The labels that are known, those of the store, those on its threads and those that its log says were
created fit together in every state that runs come to, and the threads are as sound as they were. The
log is read by place: what an entry may do depends on the labels after those before it.
-/

namespace MailTriage

namespace Operation

variable {op : Operation} {ls : List String} {l : String} {s : ThreadState}

theorem mem_onLabels (h : l ∈ op.onLabels ls) : l ∈ ls ∨ op = .addLabel l := by
  cases op with
  | addLabel name =>
    rcases mem_addLabel.1 h with h | rfl
    · exact .inl h
    · exact .inr rfl
  | removeLabel name => exact .inl (List.mem_of_mem_erase h)
  | _ => exact .inl h

theorem nodup_onLabels (h : ls.Nodup) : (op.onLabels ls).Nodup := by
  cases op with
  | addLabel name =>
    simp only [onLabels, List.contains_iff_mem]
    split_ifs with hn
    · exact h
    · exact h.append (List.nodup_singleton name) (by simpa using hn)
  | removeLabel name => exact h.erase name
  | _ => exact h

theorem place_onState (h : ¬ (s.inInbox ∧ s.inTrash)) :
    ¬ ((op.onState s).inInbox ∧ (op.onState s).inTrash) := by
  cases op <;> simp_all [onState]

end Operation

/-- A thread and what has become of it: no label is on it twice, and it is not both in the inbox and in
the trash, unless it was so before. -/
structure Thread.Kept (t u : Thread) : Prop where
  id : u.id = t.id
  messages : u.messages = t.messages
  nodup : t.labels.Nodup → u.labels.Nodup
  place : ¬ (t.state.inInbox ∧ t.state.inTrash) → ¬ (u.state.inInbox ∧ u.state.inTrash)

theorem Thread.Kept.refl (t : Thread) : t.Kept t := ⟨rfl, rfl, fun h => h, fun h => h⟩

theorem Thread.Kept.onThread {t u : Thread} (h : t.Kept u) (op : Operation) :
    t.Kept (op.onThread u) where
  id := h.id
  messages := h.messages
  nodup ht := Operation.nodup_onLabels (h.nodup ht)
  place ht := Operation.place_onState (h.place ht)

namespace Store

variable {op : Operation} {places : List Nat} {threads : List Thread} {p : Nat} {u : Thread}

theorem exists_iterate_afterOperation (op : Operation) (places : List Nat) (threads : List Thread)
    (p : Nat) : ∃ n, (afterOperation op places threads)[p]? = (threads[p]?).map op.onThread^[n] := by
  induction places generalizing threads with
  | nil => exact ⟨0, by simp [afterOperation]⟩
  | cons q places ih =>
    obtain ⟨n, hn⟩ := ih (threads.modify q op.onThread)
    have h : afterOperation op (q :: places) threads =
        afterOperation op places (threads.modify q op.onThread) := rfl
    rw [h, hn, List.getElem?_modify]
    by_cases hq : q = p
    · subst hq
      refine ⟨n + 1, ?_⟩
      simp [Function.iterate_succ]
    · exact ⟨n, by simp [hq]⟩

/-- What an operation preserves is preserved where it is done to several threads. -/
theorem exists_of_afterOperation (hu : (afterOperation op places threads)[p]? = some u) :
    ∃ t, threads[p]? = some t ∧
      ∀ P : Thread → Prop, (∀ v, P v → P (op.onThread v)) → P t → P u := by
  obtain ⟨n, hn⟩ := exists_iterate_afterOperation op places threads p
  rw [hn, Option.map_eq_some_iff] at hu
  obtain ⟨t, ht, rfl⟩ := hu
  exact ⟨t, ht, fun P hP h => Function.Iterate.rec P h hP n⟩

def createdIn (log : List LogEntry) : List String :=
  log.filterMap fun e =>
    match e.operation with
    | .createLabel name => some name
    | _ => none

def labelsAfter (labels : LabelSet) (log : List LogEntry) : LabelSet :=
  labels.insertAll (createdIn log)

variable {labels : LabelSet} {log : List LogEntry} {e : LogEntry} {name : String} {names : List String}

theorem createdIn_append_create (h : e.operation = .createLabel name) :
    createdIn (log ++ [e]) = createdIn log ++ [name] := by
  simp [createdIn, h]

theorem createdIn_append_of_ne (h : ∀ n, e.operation ≠ .createLabel n) :
    createdIn (log ++ [e]) = createdIn log := by
  have hnone : createdIn [e] = [] := by
    unfold createdIn
    cases ho : e.operation with
    | createLabel n => exact absurd ho (h n)
    | _ => simp [ho]
  have happend : createdIn (log ++ [e]) = createdIn log ++ createdIn [e] := List.filterMap_append
  rw [happend, hnone, List.append_nil]

/-- A log in which labels are created under names that are new at that moment. -/
def CreatesNew (labels : LabelSet) (log : List LogEntry) : Prop :=
  ∀ i e name, log[i]? = some e → e.operation = .createLabel name →
    Label.IsName name ∧ name ∉ labelsAfter labels (log.take i)

theorem CreatesNew.append (h : CreatesNew labels log)
    (hnew : ∀ name, e.operation = .createLabel name →
      Label.IsName name ∧ name ∉ labelsAfter labels log) : CreatesNew labels (log ++ [e]) := by
  intro i e' name hi ho
  rcases Nat.lt_trichotomy i log.length with hlt | rfl | hgt
  · rw [List.getElem?_append_left hlt] at hi
    rw [List.take_append_of_le_length (Nat.le_of_lt hlt)]
    exact h i e' name hi ho
  · rw [List.getElem?_concat_length] at hi
    cases hi
    rw [List.take_left' rfl]
    exact hnew name ho
  · rw [List.getElem?_eq_none (by rw [List.length_append, List.length_singleton]; omega)] at hi
    cases hi

end Store

open Store

/-- How a mailbox fits together that has come of a store. -/
structure Mailbox.Consistent (initial : Store) (b : Mailbox) : Prop where
  known : b.known = b.store.labels
  labelled : ∀ (p : Nat) (u : Thread), b.store.threads[p]? = some u → ∀ l ∈ u.labels, l ∈ b.store.labels
  existing : b.store.labels = labelsAfter initial.labels b.store.log
  created : CreatesNew initial.labels b.store.log
  once : (createdIn b.store.log).Nodup
  threads : ∀ (p : Nat) (u : Thread), b.store.threads[p]? = some u →
    ∃ t : Thread, initial.threads[p]? = some t ∧ t.Kept u

namespace Mailbox

variable {initial : Store} {b b' : Mailbox} {name : String} {op : Operation} {places : List Nat}

theorem createdIn_create (b : Mailbox) (name : String) :
    createdIn (b.create name).store.log = createdIn b.store.log ++ [name] :=
  createdIn_append_create rfl

theorem createdIn_perform (hop : ∀ n, op ≠ .createLabel n) :
    createdIn (b.perform op places).store.log = createdIn b.store.log :=
  createdIn_append_of_ne hop

theorem labels_perform (hop : ∀ n, op ≠ .createLabel n) :
    (b.perform op places).store.labels = b.store.labels := by
  cases op with
  | createLabel n => exact absurd rfl (hop n)
  | _ => rfl

theorem Consistent.not_mem_labelsAfter (h : Consistent initial b) (hnew : name ∉ b.known) :
    name ∉ labelsAfter initial.labels b.store.log := by
  rwa [← h.existing, ← h.known]

theorem Consistent.create (h : Consistent initial b) (hname : Label.IsName name)
    (hnew : name ∉ b.known) : Consistent initial (b.create name) where
  known := congrArg (·.insert name) h.known
  labelled p u hu l hl := LabelSet.mem_insert.2 (.inr (h.labelled p u hu l hl))
  existing := by
    rw [labelsAfter, createdIn_create, LabelSet.insertAll, List.foldl_append]
    exact congrArg (·.insert name) h.existing
  created := by
    apply h.created.append
    rintro n hn
    cases hn
    exact ⟨hname, h.not_mem_labelsAfter hnew⟩
  once := by
    rw [createdIn_create]
    have hnot : name ∉ createdIn b.store.log := by
      intro hmem
      exact h.not_mem_labelsAfter hnew (LabelSet.mem_insertAll.2 (.inr hmem))
    exact h.once.append (List.nodup_singleton name) (by simpa using hnot)
  threads := h.threads

theorem Consistent.perform (h : Consistent initial b) (hop : ∀ n, op ≠ .createLabel n)
    (hknown : ∀ n, op = .addLabel n → n ∈ b.known) : Consistent initial (b.perform op places) where
  known := by
    rw [labels_perform hop]
    exact h.known
  labelled p u hu := by
    rw [labels_perform hop]
    have hstep : ∀ t : Thread, (∀ l ∈ t.labels, l ∈ b.store.labels) →
        ∀ l ∈ (op.onThread t).labels, l ∈ b.store.labels := by
      intro t ht l hl
      rcases Operation.mem_onLabels hl with hl | rfl
      · exact ht l hl
      · rw [← h.known]
        exact hknown l rfl
    obtain ⟨t, ht, hpreserved⟩ := exists_of_afterOperation hu
    exact hpreserved _ hstep (h.labelled p t ht)
  existing := by
    rw [labels_perform hop, labelsAfter, createdIn_perform hop]
    exact h.existing
  created := by
    apply h.created.append
    intro n hn
    exact absurd hn (hop n)
  once := by
    rw [createdIn_perform hop]
    exact h.once
  threads p u hu := by
    obtain ⟨v, hv, hpreserved⟩ := exists_of_afterOperation hu
    obtain ⟨t, ht, hkept⟩ := h.threads p v hv
    exact ⟨t, ht, hpreserved t.Kept (fun w hw => hw.onThread op) hkept⟩

theorem Consistent.step (h : Consistent initial b) (hs : Step b b') : Consistent initial b' := by
  cases hs with
  | create hname hnew => exact h.create hname hnew
  | perform hop hknown => exact h.perform hop hknown

theorem Consistent.steps (h : Consistent initial b) (hs : Steps b b') : Consistent initial b' := by
  induction hs with
  | refl => exact h
  | tail _ hstep ih => exact ih.step hstep

theorem consistent_ofStore (threads : List Thread) (labels : List String) :
    Consistent (.ofThreads threads labels) (.ofStore (.ofThreads threads labels)) where
  known := rfl
  labelled p u hu l hl := by
    apply LabelSet.mem_insertAll.2 (.inr _)
    apply List.mem_append_right
    exact List.mem_flatMap.2 ⟨u, List.mem_of_getElem? hu, hl⟩
  existing := rfl
  created i e name hi := by cases hi
  once := List.nodup_nil
  threads p u hu := ⟨u, hu, .refl u⟩

end Mailbox

namespace Batch

variable {s : Session} {threads : List Thread} {labels : List String} {stats : Option Stats}
  {state : State}

/-- However runs go that start from a store of some threads, they leave a mailbox that fits together. -/
theorem consistent_of_reaches
    (h : Reaches s ⟨.ofStore (.ofThreads threads labels), stats⟩ state) :
    state.mailbox.Consistent (.ofThreads threads labels) :=
  (Mailbox.consistent_ofStore threads labels).steps (steps_of_reaches h)

/-- A session whose first run stops at a label that starts with a slash, after another one was created
and added. -/
def slashSession : Session :=
  labelSession "!a,/x"

/-- The run that was cut off is followed by one over the thread it left behind. -/
theorem consistent_of_aborted_run :
    (run slashSession ⟨0, none⟩ ⟨0, none⟩ {} (waitingState [""] [])).2 = .error (.label .empty) ∧
      createdIn (run slashSession ⟨0, none⟩ ⟨0, none⟩ {}
        (waitingState [""] [])).1.mailbox.store.log = ["!a"] ∧
      (run slashSession ⟨9, none⟩ ⟨9, none⟩ {} (run slashSession ⟨0, none⟩ ⟨0, none⟩ {}
        (waitingState [""] [])).1).1.mailbox.Consistent (waitingState [""] []).mailbox.store := by
  refine ⟨by decide +kernel, by decide +kernel, ?_⟩
  exact consistent_of_reaches (.run (.run .refl ⟨0, none⟩ ⟨0, none⟩ {}) ⟨9, none⟩ ⟨9, none⟩ {})

end Batch

end MailTriage
